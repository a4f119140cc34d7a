/-!
# Labels in ASCII

A label with characters beyond ASCII is written in ASCII: its characters of ASCII, a hyphen, and
then in ascending order each other character, as the number of steps to it from the one before. A
step goes to the next place in the label and, past its end, to the next character. Numbers are
written in base thirty-six with a threshold for each digit that adapts to the sizes of the numbers
before.
-/

namespace Telemetry.Host.Punycode

def digitChar (d : Nat) : Nat := if d < 26 then 0x61 + d else 0x30 + (d - 26)

def digitValue? (code : Nat) : Option Nat :=
  if 0x61 ≤ code && code ≤ 0x7A then some (code - 0x61)
  else if 0x30 ≤ code && code ≤ 0x39 then some (code - 0x30 + 26)
  else none

theorem digitValue?_digitChar {d : Nat} (h : d < 36) : digitValue? (digitChar d) = some d := by
  unfold digitValue? digitChar
  by_cases hd : d < 26
  · simp [hd, show 0x61 + d ≤ 0x7A by omega]
  · simp [hd, show ¬ 0x61 ≤ 0x30 + (d - 26) by omega, show 0x30 + (d - 26) ≤ 0x39 by omega]
    omega

/-- The digit at a position ends a number when it is below the threshold. -/
def threshold (position bias : Nat) : Nat :=
  if position ≤ bias then 1 else if bias + 26 ≤ position then 26 else position - bias

theorem one_le_threshold (position bias : Nat) : 1 ≤ threshold position bias := by
  unfold threshold
  repeat' split
  all_goals omega

/-- How often a number is divided until it is small, and what is left. -/
def settle (delta times : Nat) : Nat × Nat :=
  if 455 < delta then settle (delta / 35) (times + 1) else (delta, times)
termination_by delta
decreasing_by exact Nat.div_lt_self (by omega) (by omega)

/-- The bias after a number; `count` characters are in place. -/
def adapt (delta count : Nat) (first : Bool) : Nat :=
  let delta := if first then delta / 700 else delta / 2
  let (delta, times) := settle (delta + delta / count) 0
  36 * times + 36 * delta / (delta + 38)

/-- Reads a number and what follows it. -/
def number? (bias value weight position : Nat) : List Nat → Option (Nat × List Nat)
  | [] => none
  | code :: rest => do
    let digit ← digitValue? code
    let value := value + digit * weight
    let t := threshold position bias
    if digit < t then some (value, rest)
    else number? bias value (weight * (36 - t)) (position + 36) rest

/-- A label as read so far, with the place and the character reached. -/
structure Reader where
  label : List Nat
  place : Nat
  code : Nat
  bias : Nat

def read? : Nat → Reader → List Nat → Option (List Nat)
  | _, r, [] => some r.label
  | 0, _, _ => none
  | fuel + 1, r, digits => do
    let (steps, rest) ← number? r.bias 0 1 36 digits
    let count := r.label.length + 1
    let reached := r.place + steps
    let code := r.code + reached / count
    let place := reached % count
    let label := r.label.take place ++ code :: r.label.drop place
    let bias := adapt steps count (r.label.all (· < 0x80))
    if code.isValidChar then read? fuel ⟨label, place + 1, code, bias⟩ rest else none

/-- The label that is written so, all in small letters. -/
def decode? (text : List Nat) : Option (List Nat) :=
  let tail := (text.reverse.takeWhile (· ≠ 0x2D)).reverse
  let basic := text.take (text.length - tail.length - 1)
  let digits := if basic.isEmpty then text else tail
  read? digits.length ⟨basic, 0, 0x80, 72⟩ digits

def writeNumber (bias position q : Nat) : List Nat :=
  let t := threshold position bias
  if q < t then [digitChar q]
  else digitChar (t + (q - t) % (36 - t)) ::
    writeNumber bias (position + 36) ((q - t) / (36 - t))
termination_by q
decreasing_by
  have ht := one_le_threshold position bias
  exact Nat.lt_of_le_of_lt (Nat.div_le_self _ _) (by omega)

/-- What is written so far, the steps since the last character, and how many characters are in
place. -/
structure Writer where
  text : List Nat
  steps : Nat
  bias : Nat
  count : Nat

/-- Passes one character of the label on the way to the next `code`. -/
def pass (basic code : Nat) (w : Writer) (c : Nat) : Writer :=
  if c < code then { w with steps := w.steps + 1 }
  else if c = code then
    ⟨w.text ++ writeNumber w.bias 36 w.steps, 0, adapt w.steps (w.count + 1) (w.count = basic),
      w.count + 1⟩
  else w

/-- Goes through the label once for each of its characters beyond ASCII. -/
def write (label : List Nat) (basic next : Nat) (w : Writer) : List Nat → List Nat
  | [] => w.text
  | code :: codes =>
    let start := { w with steps := w.steps + (code - next) * (w.count + 1) }
    let w := label.foldl (pass basic code) start
    write label basic (code + 1) { w with steps := w.steps + 1 } codes

def encode (label : List Nat) : List Nat :=
  let basic := label.filter (· < 0x80)
  let others := ((label.filter (0x80 ≤ ·)).mergeSort (· ≤ ·)).eraseDups
  let start := if basic.isEmpty then [] else basic ++ [0x2D]
  write label basic.length 0x80 ⟨start, 0, 72, basic.length⟩ others

end Telemetry.Host.Punycode
