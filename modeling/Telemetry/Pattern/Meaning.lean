import Telemetry.Character.Fold
import Telemetry.Character.Property
import Telemetry.Pattern.Shape

/-!
# The meaning of patterns

A tree has a shape if its names are known and if what it matches is text. Flags hold from where they
stand to the end of their group. Where Unicode is off a pattern may not ask for bytes that are no
text: a dot, a negated class or a byte beyond ASCII.
-/

namespace Telemetry.Pattern

open Text (Ranges)

/-- The flags that are on. -/
structure Modes where
  caseless : Bool := false
  lines : Bool := false
  dotAll : Bool := false
  swapGreed : Bool := false
  unicode : Bool := true
  carriage : Bool := false

namespace Modes

def set (m : Modes) (change : Flag × Bool) : Modes :=
  match change.1 with
  | .caseless => { m with caseless := change.2 }
  | .lines => { m with lines := change.2 }
  | .dotAll => { m with dotAll := change.2 }
  | .swapGreed => { m with swapGreed := change.2 }
  | .unicode => { m with unicode := change.2 }
  | .carriage => { m with carriage := change.2 }
  | .verbose => m

def setAll (m : Modes) (changes : List (Flag × Bool)) : Modes := changes.foldl set m

/-- All that differs from the set by case alone, where case does not count. -/
def fold (m : Modes) (set : Ranges) : Ranges :=
  if !m.caseless then set
  else if m.unicode then Character.closeCase set
  else Character.closeAsciiCase set

/-- A set as it stands in a class, negated after its variants of case are added. -/
def finish? (m : Modes) (negated : Bool) (set : Ranges) : Option Ranges :=
  let folded := m.fold set
  let result := if negated then Ranges.complement folded else folded
  if m.unicode || Ranges.isAscii result then some result else none

def shorthand? (m : Modes) (kind : Shorthand) (negated : Bool) : Option Ranges :=
  let set := match kind with
    | .digit => if m.unicode then Character.digits else [(0x30, 0x39)]
    | .space => if m.unicode then Character.blanks else [(0x09, 0x0D), (0x20, 0x20)]
    | .word =>
      if m.unicode then Character.wordCharacters
      else [(0x30, 0x39), (0x41, 0x5A), (0x5F, 0x5F), (0x61, 0x7A)]
  let result := if negated then Ranges.complement set else set
  if m.unicode || Ranges.isAscii result then some result else none

def property? : Query → Option Ranges
  | .letter c => Character.named? c.toString
  | .name name => Character.named? name
  | .value property value => Character.valued? property value

def named? (m : Modes) (name : Named) (negated : Bool) : Option Ranges :=
  match name with
  | .shorthand kind => m.shorthand? kind negated
  | .ascii set => m.finish? negated set
  | .property query => do
    let set ← property? query
    if m.unicode then m.finish? negated set else none

/-- A character of a class. Where Unicode is off it is one of ASCII. -/
def code? (m : Modes) (letter : Letter) : Option Nat :=
  let code := letter.char.toNat
  if m.unicode || code < 0x80 then some code else none

mutual

/-- The set of what stands between the brackets of a class. -/
def inner? (m : Modes) : ClassTree → Option Ranges
  | .empty => some []
  | .letter letter => do
    let code ← m.code? letter
    return [(code, code)]
  | .range low high => do return [(← m.code? low, ← m.code? high)]
  | .named name negated => m.named? name negated
  | .bracketed inner negated => do m.finish? negated (← inner? m inner)
  | .union items => do return Ranges.unions (← inners? m items)
  | .operation op left right => do
    let left := m.fold (← inner? m left)
    let right := m.fold (← inner? m right)
    return match op with
      | .intersection => Ranges.intersection left right
      | .difference => Ranges.difference left right
      | .symmetricDifference => Ranges.symmetricDifference left right

def inners? (m : Modes) : List ClassTree → Option (List Ranges)
  | [] => some []
  | item :: items => do return (← inner? m item) :: (← inners? m items)

end

/-- A character with its variants of case, if case does not count. A byte beyond ASCII is no
text. -/
def letter? (m : Modes) (letter : Letter) : Option Shape :=
  let code := letter.char.toNat
  if !m.unicode && letter.byte && 0x80 ≤ code then none
  else if !m.unicode && 0x80 ≤ code then some (Shape.ofChar letter.char)
  else some (Shape.ofSet (m.fold [(code, code)]))

/-- A dot matches all but the ends of lines. -/
def dot? (m : Modes) : Option Shape :=
  if !m.unicode then none
  else if m.dotAll then some (Shape.ofSet [(0, Ranges.last)])
  else if m.carriage then
    some (Shape.ofSet (Ranges.complement [(0x0A, 0x0A), (0x0D, 0x0D)]))
  else some (Shape.ofSet (Ranges.complement [(0x0A, 0x0A)]))

/-- The ends of the text count as ends of its only line unless lines are told apart. -/
def place (m : Modes) (kind : Assertion) : Shape :=
  match kind with
  | .lineStart => .place ⟨if m.lines then .lineStart else .textStart, false, m.lines && m.carriage⟩
  | .lineEnd => .place ⟨if m.lines then .lineEnd else .textEnd, false, m.lines && m.carriage⟩
  | .textStart | .textEnd => .place ⟨kind, false, false⟩
  | kind => .place ⟨kind, m.unicode, false⟩

end Modes

mutual

/-- The shape of a tree and the modes that hold after it. -/
def Tree.shape? (m : Modes) : Tree → Option (Shape × Modes)
  | .empty => some (.empty, m)
  | .letter c => (m.letter? c).map (·, m)
  | .dot => m.dot?.map (·, m)
  | .assertion kind => some (m.place kind, m)
  | .flags changes => some (.empty, m.setAll changes)
  | .named name negated => (m.named? name negated).map fun set => (Shape.ofSet set, m)
  | .bracketed inner negated => do
    return (Shape.ofSet (← m.finish? negated (← m.inner? inner)), m)
  | .repetition inner low high greedy => do
    let (shape, m) ← inner.shape? m
    return (Shape.ofRepetition shape low high (greedy != m.swapGreed), m)
  | .group (.capture index) inner => do
    let (shape, _) ← inner.shape? m
    return (.capture index shape, m)
  | .group (.plain changes) inner => do
    let (shape, _) ← inner.shape? (m.setAll changes)
    return (shape, m)
  | .sequence items => do
    let (shapes, m) ← shapes? m items
    return (Shape.ofConcat shapes, m)
  | .alternatives items => do
    let (shapes, m) ← shapes? m items
    return (Shape.ofAlternation shapes, m)

def Tree.shapes? (m : Modes) : List Tree → Option (List Shape × Modes)
  | [] => some ([], m)
  | item :: items => do
    let (shape, m) ← item.shape? m
    let (shapes, m) ← shapes? m items
    return (shape :: shapes, m)

end

/-- What a tree means in the absence of flags. -/
def Tree.meaning? (tree : Tree) : Option Shape := (tree.shape? {}).map (·.1)

end Telemetry.Pattern
