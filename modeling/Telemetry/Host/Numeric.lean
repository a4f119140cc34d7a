/-!
# Numeric addresses

An address of thirty-two bits is written as one to four numbers between dots, in decimal, octal or
hexadecimal digits; the last number takes the room that is left. An address of a hundred and
twenty-eight bits is written as eight groups of hexadecimal digits between colons; two colons stand
for groups of zero, and the last two groups may be written as four decimal numbers.
-/

namespace Telemetry.Host

def hexValue? (c : Char) : Option Nat :=
  if c.isDigit then some (c.toNat - '0'.toNat)
  else if 'a' ≤ c && c ≤ 'f' then some (c.toNat - 'a'.toNat + 10)
  else if 'A' ≤ c && c ≤ 'F' then some (c.toNat - 'A'.toNat + 10)
  else none

/-- The number that digits spell in a base. -/
def spelled? (base : Nat) (digits : List Char) : Option Nat :=
  digits.foldlM (fun n c => do
    let d ← hexValue? c
    if d < base then some (base * n + d) else none) 0

/-- A number, with `0x` in hexadecimal digits, with a zero in octal ones. Nothing after the mark is
zero. -/
def number? : List Char → Option Nat
  | [] => none
  | '0' :: 'x' :: digits | '0' :: 'X' :: digits => spelled? 16 digits
  | '0' :: d :: digits => spelled? 8 (d :: digits)
  | digits => spelled? 10 digits

/-- The parts between dots. -/
def dotted : List Char → List (List Char)
  | [] => [[]]
  | c :: rest =>
    match dotted rest with
    | [] => [[c]]
    | part :: parts => if c = '.' then [] :: part :: parts else (c :: part) :: parts

/-- The parts, less an empty one at the end. -/
def parts (text : List Char) : List (List Char) :=
  let all := dotted text
  if 1 < all.length && all.getLast? = some [] then all.dropLast else all

/-- The last part is a number, so that the whole has to be an address. -/
def endsInNumber (text : List Char) : Bool :=
  match (parts text).getLast? with
  | some last => (last ≠ [] && last.all Char.isDigit) || (number? last).isSome
  | none => false

/-- An address of thirty-two bits. -/
def fourParts? (text : List Char) : Option Nat := do
  let numbers ← (parts text).mapM number?
  let last ← numbers.getLast?
  let others := numbers.dropLast
  if 4 < numbers.length || others.any (255 < ·) || Nat.pow 256 (4 - others.length) ≤ last then
    none
  else
    let high := others.foldl (fun n part => 256 * n + part) 0
    some (high * Nat.pow 256 (4 - others.length) + last)

/-- A decimal number below 256 without a needless zero. -/
def octet? (digits : List Char) : Option Nat :=
  match digits with
  | [] => none
  | '0' :: _ :: _ => none
  | digits => (spelled? 10 digits).filter (· < 256)

/-- Four decimal numbers as two groups. -/
def octets? (text : List Char) : Option (List Nat) := do
  match ← (dotted text).mapM octet? with
  | [a, b, c, d] => some [256 * a + b, 256 * c + d]
  | _ => none

/-- Groups read so far, and where two colons stood: at that place there is a group of zero. -/
structure Groups where
  groups : List Nat
  gap : Option Nat

/-- Reads groups; each reading step takes a colon, a group with the colon after it, or the end. -/
def readGroups? : Nat → Groups → List Char → Option Groups
  | _, g, [] => some g
  | 0, _, _ => none
  | fuel + 1, g, text =>
    if g.groups.length = 8 then none
    else match text with
      | ':' :: rest =>
        if g.gap.isSome then none
        else readGroups? fuel ⟨g.groups ++ [0], some (g.groups.length + 1)⟩ rest
      | text => do
        let digits := (text.take 4).takeWhile fun c => (hexValue? c).isSome
        let value ← spelled? 16 digits
        match text.drop digits.length with
        | [] => some { g with groups := g.groups ++ [value] }
        | ':' :: rest =>
          if rest.isEmpty then none
          else readGroups? fuel { g with groups := g.groups ++ [value] } rest
        | '.' :: _ =>
          if digits.isEmpty || 6 < g.groups.length then none
          else (octets? text).map fun octets => { g with groups := g.groups ++ octets }
        | _ => none

/-- The eight groups of an address. Two colons at the start stand for one group of zero at least. -/
def eightGroups? (text : List Char) : Option (List Nat) := do
  let g ← match text with
    | ':' :: ':' :: rest => readGroups? rest.length ⟨[0], some 1⟩ rest
    | ':' :: _ | [_] | [] => none
    | text => readGroups? text.length ⟨[], none⟩ text
  match g.gap with
  | none => if g.groups.length = 8 then some g.groups else none
  | some place =>
    let zeros := List.replicate (8 - g.groups.length) 0
    some (g.groups.take place ++ zeros ++ g.groups.drop place)

def fourPartsText (address : Nat) : String :=
  ".".intercalate ([24, 16, 8, 0].map fun shift => toString (address / Nat.pow 2 shift % 256))

def groupText (group : Nat) : String := String.ofList (Nat.toDigits 16 group)

/-- The lengths of the runs of zero that begin at each group. -/
def zeroRuns : List Nat → List Nat
  | [] => []
  | group :: groups =>
    let runs := zeroRuns groups
    (if group = 0 then runs.headD 0 + 1 else 0) :: runs

/-- The first of the longest runs of zero, if it is longer than one, is left out. -/
def eightGroupsText (groups : List Nat) : String :=
  let runs := zeroRuns groups
  let longest := runs.foldl max 0
  let text (groups : List Nat) : String := ":".intercalate (groups.map groupText)
  if longest < 2 then text groups
  else
    let place := runs.findIdx (· = longest)
    text (groups.take place) ++ "::" ++ text (groups.drop (place + longest))

end Telemetry.Host
