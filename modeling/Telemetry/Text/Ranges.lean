/-!
# Sets of code points

A set of code points is a list of closed ranges, ascending and apart. Long sets are kept as text: a
word for each range, of digits in base thirty-six, says how many code points lie between it and the
range before and, after a hyphen, how many follow its first. `0-3 1w` is the set of the code points
0 to 3 and 72.
-/

namespace Telemetry.Text

abbrev Ranges := List (Nat × Nat)

namespace Ranges

/-- The greatest code point. -/
def last : Nat := 0x10FFFF

def holds (set : Ranges) (code : Nat) : Bool :=
  set.any fun (low, high) => low ≤ code && code ≤ high

def digitValue (c : Char) : Nat :=
  if c.isDigit then c.toNat - '0'.toNat else c.toNat - 'a'.toNat + 10

/-- Reads words; `next` is the first code point after the ranges so far, `gap` and `extent` are the
numbers of the word at hand. -/
def read (next : Nat) (gap extent : Option Nat) : List Char → Ranges
  | [] =>
    match gap with
    | none => []
    | some g => [(next + g, next + g + extent.getD 0)]
  | c :: rest =>
    if c = '-' then read next gap (some 0) rest
    else if c = ' ' || c = '\n' then
      match gap with
      | none => read next none none rest
      | some g =>
        let high := next + g + extent.getD 0
        (next + g, high) :: read (high + 1) none none rest
    else match extent with
      | some n => read next gap (some (36 * n + digitValue c)) rest
      | none => read next (some (36 * gap.getD 0 + digitValue c)) none rest

def ofText (text : String) : Ranges := read 0 none none text.toList

/-- Merges ranges that overlap or touch, given that their lower ends ascend. -/
def coalesce : Ranges → Ranges
  | [] => []
  | (low, high) :: rest => go low high rest
where
  go (low high : Nat) : Ranges → Ranges
    | [] => [(low, high)]
    | (a, b) :: rest =>
      if a ≤ high + 1 then go low (max high b) rest else (low, high) :: go a b rest

def normalize (set : Ranges) : Ranges :=
  coalesce (set.mergeSort fun x y => x.1 ≤ y.1)

def union (a b : Ranges) : Ranges := normalize (a ++ b)

def unions (sets : List Ranges) : Ranges := normalize sets.flatten

/-- What lies outside, from `next` on. -/
def gaps (next : Nat) : Ranges → Ranges
  | [] => if next ≤ last then [(next, last)] else []
  | (low, high) :: rest =>
    if next < low then (next, low - 1) :: gaps (high + 1) rest else gaps (high + 1) rest

def complement (set : Ranges) : Ranges := gaps 0 set

def intersection (a b : Ranges) : Ranges := complement (union (complement a) (complement b))

def difference (a b : Ranges) : Ranges := intersection a (complement b)

def symmetricDifference (a b : Ranges) : Ranges := union (difference a b) (difference b a)

/-- Every code point is of ASCII. -/
def isAscii (set : Ranges) : Bool := set.all fun (_, high) => high < 0x80

end Ranges

end Telemetry.Text
