import Std.Data.HashMap
import Telemetry.Pattern.Shape

/-!
# The size of a pattern's automaton

A pattern is run by two automata, one that reads forwards and one that reads backwards. Neither may
take more than ten mebibytes. What they take is counted here state by state, as they would be laid
out: a state takes a fixed room, a transition of a state with many of them and an alternative of a
branching state take more. Nothing is laid out: a count that passes the limit ends at once.

A set beyond ASCII becomes states that read its encodings. Forwards, states that go on alike are
shared; backwards, encodings share the states of what they end with. Both look for a state to share
in a table with few places, in which a later state drives out an earlier one.
-/

namespace Telemetry.Pattern

open Text (Ranges)

/-- The states of an automaton so far, and the room taken by transitions and alternatives. -/
structure Layout where
  states : Nat
  extra : Nat
deriving DecidableEq, Repr

namespace Layout

def limit : Nat := 10 * Nat.pow 2 20

def stateRoom : Nat := 32

def transitionRoom : Nat := 8

def alternativeRoom : Nat := 4

def room (l : Layout) : Nat := stateRoom * l.states + l.extra

def within? (l : Layout) : Option Layout := if l.room ≤ limit then some l else none

/-- Adds a state with transitions and alternatives of its own. -/
def add? (l : Layout) (transitions alternatives : Nat) : Option Layout :=
  within? ⟨l.states + 1, l.extra + transitionRoom * transitions + alternativeRoom * alternatives⟩

/-- Adds states that have a single transition or none. -/
def addPlain? (l : Layout) (count : Nat) : Option Layout :=
  within? { l with states := l.states + count }

/-- Adds alternatives to states that are there. -/
def branch? (l : Layout) (count : Nat) : Option Layout :=
  within? { l with extra := l.extra + alternativeRoom * count }

end Layout

/-- The place of a list of numbers in a table. -/
def place (places : Nat) (key : List Nat) : Nat :=
  let hash := key.foldl
    (fun (h : UInt64) n => (h ^^^ UInt64.ofNat n) * 1099511628211) 14695981039346656037
  hash.toNat % places

/-- States under what they were made of, each in its place. -/
structure Shared where
  places : Nat
  entries : Std.HashMap Nat (List Nat × Nat)

namespace Shared

def empty (places : Nat) : Shared := ⟨places, {}⟩

def find? (s : Shared) (key : List Nat) : Option Nat :=
  match s.entries[place s.places key]? with
  | some (kept, state) => if kept = key then some state else none
  | none => none

def insert (s : Shared) (key : List Nat) (state : Nat) : Shared :=
  { s with entries := s.entries.insert (place s.places key) (key, state) }

end Shared

/-- A state at work: the transitions whose aim is known, the latest first, and the range of the one
whose aim is not. -/
structure Pending where
  known : List (Nat × Nat × Nat)
  last : Option (Nat × Nat)

def Pending.settle (p : Pending) (aim : Nat) : Pending :=
  match p.last with
  | some (low, high) => ⟨(low, high, aim) :: p.known, none⟩
  | none => p

/-- The automaton of a set at work: the states on the way to the latest encoding, the deepest
first. -/
structure Forward where
  layout : Layout
  shared : Shared
  aim : Nat
  way : List Pending

namespace Forward

/-- The state with the given transitions, shared or new. -/
def state? (f : Forward) (transitions : List (Nat × Nat × Nat)) : Option (Nat × Forward) :=
  let ordered := transitions.reverse
  let key := ordered.flatMap fun (low, high, aim) => [low, high, aim]
  match f.shared.find? key with
  | some state => some (state, f)
  | none => do
    let layout ← f.layout.add? ordered.length 0
    let state := f.layout.states
    return (state, { f with layout, shared := f.shared.insert key state })

/-- Finishes the states deeper than a depth, from the deepest up. -/
def finishTo? (f : Forward) (depth aim : Nat) : List Pending → Option Forward
  | [] => some { f with way := [] }
  | p :: way =>
    if depth < way.length then do
      let (state, f) ← f.state? (p.settle aim).known
      finishTo? f depth state way
    else some { f with way := p.settle aim :: way }

/-- Adds an encoding, which is greater than those before it. -/
def add? (f : Forward) (encoding : List (Nat × Nat)) : Option Forward := do
  let common := (f.way.reverse.zip encoding).takeWhile fun (p, range) => p.last = some range
  let f ← f.finishTo? common.length f.aim f.way
  match encoding.drop common.length, f.way with
  | range :: ranges, p :: way =>
    let deeper : List Pending := (ranges.map fun range => ⟨[], some range⟩).reverse
    some { f with way := deeper ++ { p with last := some range } :: way }
  | _, _ => some f

end Forward

def setForward? (l : Layout) (set : Ranges) : Option Layout := do
  let start : Forward := ⟨← l.addPlain? 1, Shared.empty 10000, l.states, [⟨[], none⟩]⟩
  let f ← (sequences set).foldlM (fun f encoding => f.add? encoding) start
  let f ← f.finishTo? 0 f.aim f.way
  match f.way with
  | p :: _ => (f.state? p.known).map fun (_, f) => f.layout
  | [] => some f.layout

/-- Reads one encoding from its last byte to its first, sharing the states that it can; `aim` is the
state after it. -/
def readBack? (l : Layout) (shared : Shared) (aim : Nat) :
    List (Nat × Nat) → Option (Layout × Shared)
  | [] => do return (← l.branch? 1, shared)
  | (low, high) :: ranges =>
    let key := [aim, low, high]
    match shared.find? key with
    | some state => readBack? l shared state ranges
    | none => do
      let grown ← l.addPlain? 1
      readBack? grown (shared.insert key l.states) l.states ranges

def setBackward? (l : Layout) (set : Ranges) : Option Layout := do
  let start ← l.addPlain? 2
  let (l, _) ← (sequences set).foldlM
    (fun (l, shared) encoding => readBack? l shared (start.states - 1) encoding)
    (start, Shared.empty 1000)
  return l

/-- A set of ASCII is one state with a transition for each range. -/
def setLayout? (back : Bool) (l : Layout) (set : Ranges) : Option Layout :=
  if Ranges.isAscii set then do (← l.addPlain? 1).add? set.length 0
  else if back then setBackward? l set
  else setForward? l set

/-- The words that follow each other without an empty one between them. -/
def chunks : List (List Nat) → List (List (List Nat))
  | [] => [[]]
  | word :: words =>
    match word, chunks words with
    | [], parts => [] :: parts
    | word, part :: parts => (word :: part) :: parts
    | word, [] => [[word]]

/-- The tails of words by their first bytes. -/
def tails (words : List (List Nat)) : List (List (List Nat)) :=
  (words.filterMap List.head?).eraseDups.map fun b =>
    words.filterMap fun
      | a :: tail => if a = b then some tail else none
      | [] => none

/-- What the tree of words adds to a layout. A node reads the words between two empty ones by one
state, and branches to these states and to the end wherever a word ends. -/
def treeLayout : Nat → Layout → List (List Nat) → Layout
  | 0, l, _ => l
  | fuel + 1, l, words =>
    if words.all (·.isEmpty) then l
    else
      let full := (chunks words).filter (· ≠ [])
      let ends := min 1 (words.takeWhile (·.isEmpty)).length +
        ((words.dropWhile (·.isEmpty)).filter (·.isEmpty)).length
      let l := full.foldl
        (fun l chunk =>
          let count := (tails chunk).length
          let transitions := if count = 1 then 0 else count
          ⟨l.states + 1, l.extra + Layout.transitionRoom * transitions⟩) l
      let l : Layout :=
        ⟨l.states + 1, l.extra + Layout.alternativeRoom * (full.length + ends)⟩
      (full.flatMap tails).foldl (treeLayout fuel) l

def bytes? : Shape → Option (List Nat)
  | .bytes text => some text
  | _ => none

/-- A layout with a shape laid out in it; `opens` tells that what follows the shape becomes an
alternative of its last state. -/
structure Laid where
  layout : Layout
  opens : Bool

/-- Goes on after a shape. -/
def Laid.followed? (a : Laid) : Option Layout :=
  if a.opens then a.layout.branch? 1 else some a.layout

/-- Lays out a shape so many times, one after the other. -/
def timesOver? (lay : Layout → Option Laid) : Nat → Laid → Option Laid
  | 0, a => some a
  | n + 1, a => do timesOver? lay n (← lay (← a.followed?))

/-- A shape exactly so many times; not at all is an empty state. -/
def exactly? (lay : Layout → Option Laid) (n : Nat) (l : Layout) : Option Laid :=
  match n with
  | 0 => do return ⟨← l.addPlain? 1, false⟩
  | n + 1 => do timesOver? lay n (← lay l)

/-- A shape up to so many times more: each may be passed by. -/
def optionally? (lay : Layout → Option Laid) : Nat → Laid → Option Laid
  | 0, a => some a
  | n + 1, a => do
    let l ← (← a.followed?).addPlain? 1
    optionally? lay n (← lay (← l.branch? 2))

/-- A shape any number of times. What may match the empty text needs more branches, so that it is
tried once before it is passed by. -/
def anyTimes? (lay : Layout → Option Laid) (takesBytes : Bool) (l : Layout) : Option Laid :=
  if takesBytes then do
    let a ← lay (← l.addPlain? 1)
    return ⟨← (← a.followed?).branch? 1, true⟩
  else do
    let a ← lay l
    return ⟨← (← (← a.followed?).addPlain? 3).branch? 4, false⟩

def repeated? (lay : Layout → Option Laid) (takesBytes : Bool) (low : Nat) (high : Option Nat)
    (l : Layout) : Option Laid :=
  match low, high with
  | 0, none => anyTimes? lay takesBytes l
  | n + 1, none => do
    let a ← exactly? lay (n + 1) l
    return ⟨← (← (← a.followed?).addPlain? 1).branch? 1, true⟩
  | 0, some 1 => do
    let a ← lay (← l.addPlain? 1)
    return ⟨← (← (← a.followed?).addPlain? 1).branch? 2, false⟩
  | low, some high => do
    let a ← exactly? lay low l
    if high ≤ low then return a
    else
      let a ← optionally? lay (high - low) ⟨← a.layout.addPlain? 1, a.opens⟩
      return ⟨← a.followed?, false⟩

mutual

/-- Lays out a shape. Captures are kept forwards alone. -/
def Shape.lay? (back : Bool) : Shape → Layout → Option Laid
  | .empty, l => do return ⟨← l.addPlain? 1, false⟩
  | .bytes text, l => do return ⟨← l.addPlain? text.length, false⟩
  | .set ranges, l => do return ⟨← setLayout? back l ranges, false⟩
  | .place _, l => do return ⟨← l.addPlain? 1, false⟩
  | .repetition inner low high _, l =>
    repeated? (inner.lay? back) (inner.least?.any (0 < ·)) low high l
  | .capture _ inner, l =>
    if back then inner.lay? back l
    else do
      let a ← inner.lay? back (← l.addPlain? 1)
      return ⟨← (← a.followed?).addPlain? 1, false⟩
  | .concat parts, l =>
    if back then layBackwards? parts l else layForwards? parts l
  | .alternation parts, l =>
    match parts.mapM bytes? with
    | some words =>
      let words := if back then words.map List.reverse else words
      let depth := (words.map List.length).foldl max 0
      do return ⟨← (treeLayout (depth + 1) (← l.addPlain? 1) words).within?, false⟩
    | none => do return ⟨← layBranches? back 0 parts l, false⟩

/-- Parts from the first to the last. -/
def Shape.layForwards? : List Shape → Layout → Option Laid
  | [], l => do return ⟨← l.addPlain? 1, false⟩
  | [part], l => part.lay? false l
  | part :: parts, l => do layForwards? parts (← (← part.lay? false l).followed?)

/-- Parts from the last to the first. -/
def Shape.layBackwards? : List Shape → Layout → Option Laid
  | [], l => do return ⟨← l.addPlain? 1, false⟩
  | [part], l => part.lay? true l
  | part :: parts, l => do part.lay? true (← (← layBackwards? parts l).followed?)

/-- Alternatives: two states that branch and join come after the second of them. -/
def Shape.layBranches? (back : Bool) (before : Nat) : List Shape → Layout → Option Layout
  | [], l => some l
  | part :: parts, l => do
    let l ← (← part.lay? back l).followed?
    let l ← if before = 1 then l.addPlain? 2 else some l
    layBranches? back (before + 1) parts (← l.branch? 1)

end

/-- The whole automaton: unless each match is pinned to the end where reading starts, any bytes may
come before it. -/
def Shape.automaton? (back : Bool) (shape : Shape) : Option Layout := do
  let pinned := shape.pinned (if back then .textEnd else .textStart) back
  let start ← if pinned then Layout.addPlain? ⟨0, 0⟩ 1
    else (← (← Layout.addPlain? ⟨0, 0⟩ 2).add? 1 0).branch? 2
  let inner := if back then shape else .capture 0 shape
  (← (← inner.lay? back start).followed?).addPlain? 1

/-- Both automata keep within the limit. -/
def Shape.fits (shape : Shape) : Bool :=
  (shape.automaton? false).isSome && (shape.automaton? true).isSome

end Telemetry.Pattern
