import Telemetry.Pattern.Tree

/-!
# Shapes of patterns

What a pattern matches once its flags and names are resolved: bytes, sets of characters, places,
repetitions, captures, concatenations and alternations. The functions that build a shape keep it
small: what is empty vanishes, bytes that follow each other join, and what alternatives begin with
is taken out of them.

A set of characters is matched by the bytes that encode them. A range of code points is cut where
the number of bytes changes, around the surrogates, and so that in each piece all but the first
bytes that differ range freely: each piece is one sequence of ranges of bytes.
-/

namespace Telemetry.Pattern

open Text (Ranges)

/-- The bytes of a code point. -/
def encode (code : Nat) : List Nat :=
  if code < 0x80 then [code]
  else if code < 0x800 then [0xC0 + code / 0x40, 0x80 + code % 0x40]
  else if code < 0x10000 then
    [0xE0 + code / 0x1000, 0x80 + code / 0x40 % 0x40, 0x80 + code % 0x40]
  else
    [0xF0 + code / 0x40000, 0x80 + code / 0x1000 % 0x40, 0x80 + code / 0x40 % 0x40,
      0x80 + code % 0x40]

/-- Blocks of code points that take equally many bytes, less the surrogates. -/
def blocks : Ranges :=
  [(0, 0x7F), (0x80, 0x7FF), (0x800, 0xD7FF), (0xE000, 0xFFFF), (0x10000, 0x10FFFF)]

def overlap (a b : Nat × Nat) : Ranges :=
  let low := max a.1 b.1
  let high := min a.2 b.2
  if low ≤ high then [(low, high)] else []

/-- Cuts off what stands before the first and after the last multiple of a size, unless the range
lies within one such block. -/
def align (size : Nat) (range : Nat × Nat) : Ranges :=
  let (low, high) := range
  if low / size = high / size then [(low, high)]
  else
    let start := (low + size - 1) / size * size
    let stop := (high + 1) / size * size
    (if low < start then [(low, start - 1)] else []) ++
      (if start < stop then [(start, stop - 1)] else []) ++
      (if stop ≤ high then [(stop, high)] else [])

/-- The pieces of a range, each the encodings of one sequence. -/
def pieces (range : Nat × Nat) : Ranges :=
  (((blocks.flatMap (overlap range)).flatMap (align 0x40)).flatMap (align 0x1000)).flatMap
    (align 0x40000)

/-- The sequences of a set, in ascending order. -/
def sequences (set : Ranges) : List (List (Nat × Nat)) :=
  set.flatMap fun range => (pieces range).map fun (low, high) => (encode low).zip (encode high)

/-- A place that an assertion asks for; the boundaries of words are those of Unicode or of ASCII. -/
structure Place where
  kind : Assertion
  unicode : Bool
  carriage : Bool
deriving DecidableEq, Repr

/-- The place is a boundary of Unicode words. -/
def Place.isWord (p : Place) : Bool :=
  p.unicode && match p.kind with
    | .lineStart | .lineEnd | .textStart | .textEnd => false
    | _ => true

inductive Shape where
  | empty
  | bytes (text : List Nat)
  | set (ranges : Ranges)
  | place (place : Place)
  | repetition (inner : Shape) (low : Nat) (high : Option Nat) (greedy : Bool)
  | capture (index : Nat) (inner : Shape)
  | concat (parts : List Shape)
  | alternation (parts : List Shape)
deriving BEq

namespace Shape

mutual

/-- The fewest bytes of a match; none if there is no match. -/
def least? : Shape → Option Nat
  | empty => some 0
  | bytes text => some text.length
  | set ranges => ranges.head?.map fun (low, _) => (encode low).length
  | place _ => some 0
  | repetition inner low _ _ => inner.least?.map (· * low)
  | capture _ inner => inner.least?
  | concat parts => leastSum? parts
  | alternation parts => leastOf? parts

def leastSum? : List Shape → Option Nat
  | [] => some 0
  | part :: parts => do return (← part.least?) + (← leastSum? parts)

def leastOf? : List Shape → Option Nat
  | [] => none
  | [part] => part.least?
  | part :: parts => do return min (← part.least?) (← leastOf? parts)

end

mutual

/-- Nothing but the empty text matches. -/
def onlyEmpty : Shape → Bool
  | empty => true
  | bytes text => text.isEmpty
  | set _ => false
  | place _ => true
  | repetition inner _ high _ => high.isSome && inner.onlyEmpty
  | capture _ inner => inner.onlyEmpty
  | concat parts => allOnlyEmpty parts
  | alternation parts => allOnlyEmpty parts

def allOnlyEmpty : List Shape → Bool
  | [] => true
  | part :: parts => part.onlyEmpty && allOnlyEmpty parts

end

mutual

/-- Each match begins where an assertion holds, such as at the start of the text. Seen from the
back: each match ends there. -/
def pinned (kind : Assertion) (back : Bool) : Shape → Bool
  | place p => p.kind = kind
  | repetition inner low _ _ => low ≠ 0 && inner.pinned kind back
  | capture _ inner => inner.pinned kind back
  | concat parts => if back then pinnedLast kind parts else pinnedFirst kind parts
  | alternation parts => !parts.isEmpty && pinnedAll kind back parts
  | _ => false

/-- One of the first parts is pinned, up to the first that takes bytes. -/
def pinnedFirst (kind : Assertion) : List Shape → Bool
  | [] => false
  | part :: parts => part.pinned kind false || part.onlyEmpty && pinnedFirst kind parts

/-- One of the last parts is pinned, down to the last that takes bytes. -/
def pinnedLast (kind : Assertion) : List Shape → Bool
  | [] => false
  | part :: parts => pinnedLast kind parts || part.pinned kind true && allOnlyEmpty parts

def pinnedAll (kind : Assertion) (back : Bool) : List Shape → Bool
  | [] => true
  | part :: parts => part.pinned kind back && pinnedAll kind back parts

end

mutual

/-- Some part of it asks for a boundary of Unicode words. -/
def asksWord : Shape → Bool
  | place p => p.isWord
  | repetition inner _ _ _ => inner.asksWord
  | capture _ inner => inner.asksWord
  | concat parts => anyAsksWord parts
  | alternation parts => anyAsksWord parts
  | _ => false

def anyAsksWord : List Shape → Bool
  | [] => false
  | part :: parts => part.asksWord || anyAsksWord parts

end

/-- Matches nothing at all. -/
def nothing : Shape := set []

def ofChar (c : Char) : Shape := bytes (encode c.toNat)

/-- A set of characters; one of a single character is the character. Surrogates are none. -/
def ofSet (set : Ranges) : Shape :=
  let chars := Ranges.difference set [(0xD800, 0xDFFF)]
  match chars with
  | [(low, high)] => if low = high then bytes (encode low) else .set chars
  | _ => .set chars

/-- What takes no bytes need not be repeated more than once. -/
def ofRepetition (inner : Shape) (low : Nat) (high : Option Nat) (greedy : Bool) : Shape :=
  let (low, high) :=
    if inner.onlyEmpty then (min low 1, some (min (high.getD 1) 1)) else (low, high)
  if low = 0 && high = some 0 then empty
  else if low = 1 && high = some 1 then inner
  else repetition inner low high greedy

/-- Puts a part before others; bytes join the bytes after them. -/
def prepend (part : Shape) (after : List Shape) : List Shape :=
  match part, after with
  | empty, after => after
  | bytes text, bytes more :: after => bytes (text ++ more) :: after
  | part, after => part :: after

/-- The parts of a concatenation; any other shape is its own part. -/
def parts : Shape → List Shape
  | concat parts => parts
  | part => [part]

def ofConcat (items : List Shape) : Shape :=
  match (items.flatMap parts).foldr prepend [] with
  | [] => empty
  | [part] => part
  | parts => concat parts

def branches : Shape → List Shape
  | alternation parts => parts
  | part => [part]

/-- The code point whose encoding the bytes are. -/
def codeOf? : List Nat → Option Nat
  | [a] => some a
  | [a, b] => valid [a, b] ((a - 0xC0) * 0x40 + (b - 0x80))
  | [a, b, c] => valid [a, b, c] (((a - 0xE0) * 0x40 + (b - 0x80)) * 0x40 + (c - 0x80))
  | [a, b, c, d] =>
    valid [a, b, c, d] ((((a - 0xF0) * 0x40 + (b - 0x80)) * 0x40 + (c - 0x80)) * 0x40 + (d - 0x80))
  | _ => none
where
  valid (text : List Nat) (code : Nat) : Option Nat :=
    if encode code = text then some code else none

/-- The character that a shape is. -/
def single? : Shape → Option Nat
  | bytes text => codeOf? text
  | _ => none

def set? : Shape → Option Ranges
  | set ranges => some ranges
  | _ => none

/-- How many parts two concatenations begin with in common. -/
def shared : List Shape → List Shape → Nat
  | a :: as, b :: bs => if a == b then shared as bs + 1 else 0
  | _, _ => 0

def concat? : Shape → Option (List Shape)
  | concat parts => some parts
  | _ => none

/-- Alternatives that are characters, or sets, are one set. -/
def gathered? (all : List Shape) : Option Shape :=
  match all.mapM single? with
  | some codes => some (ofSet (Ranges.normalize (codes.map fun code => (code, code))))
  | none => (all.mapM set?).map fun sets => ofSet (Ranges.unions sets)

/-- Concatenations that begin with the same parts, with these parts in front. -/
def factored? (all : List Shape) : Option Shape := do
  match ← all.mapM concat? with
  | [] => none
  | first :: others =>
    let count := others.foldl (fun n rest => min n (shared first rest)) first.length
    if count = 0 then none
    else
      let tails := (first :: others).flatMap fun rest => branches (ofConcat (rest.drop count))
      some (ofConcat (first.take count ++ [(gathered? tails).getD (alternation tails)]))

def ofAlternation (items : List Shape) : Shape :=
  match items.flatMap branches with
  | [] => nothing
  | [part] => part
  | all => ((gathered? all).or (factored? all)).getD (alternation all)

end Shape

end Telemetry.Pattern
