import Telemetry.Instant
import Telemetry.Pattern
import Telemetry.Text.Quoted

/-!
# Series

A series is what a statement reads from and a point is written to: a name, a pattern of names, a
series that depends on the sample being written (no sample when reading), or a list of series. A
list of one series is that series; a longer one merges its items. A sample is what a point holds:
the values of its attributes, the time it was taken at, and whether it has been written.

Two series are equal when statements write them alike.
-/

namespace Telemetry

structure Sample where
  attributes : Keyed Json
  time : Option Instant
  persisted : Bool

namespace Sample

def empty : Sample := ⟨.empty, none, false⟩

def get? (s : Sample) (name : String) : Option Json := s.attributes.get? name

def set (s : Sample) (name : String) (value : Json) : Sample :=
  { s with attributes := s.attributes.insert name value }

def stamp (s : Sample) (time : Instant) : Sample := { s with time := some time }

end Sample

inductive Series where
  | name (text : String)
  | pattern (pattern : Pattern)
  | computed (resolve : Option Sample → Series)
  | list (items : List Series)

namespace Series

instance : Inhabited Series := ⟨.name ""⟩

/-- Quoted series as one: none is the empty name, one is itself, more are merged. -/
def mergeText : List String → String
  | [] => Text.quoteName ""
  | [item] => item
  | items => "merge(" ++ ",".intercalate items ++ ")"

/-- The one name of a list of one item. -/
def soleName : List (Option String) → Option String
  | [item] => item
  | _ => none

mutual

def quoted (sample : Option Sample) : Series → String
  | .name text => Text.quoteName text
  | .pattern p => p.literal
  | .computed resolve => (resolve sample).quoted sample
  | .list items => mergeText (quotedItems sample items)

def quotedItems (sample : Option Sample) : List Series → List String
  | [] => []
  | item :: rest => item.quoted sample :: quotedItems sample rest

end

mutual

/-- The name that a point can be written to, where the series comes down to a single one. -/
def writeName? (sample : Option Sample) : Series → Option String
  | .name text => some text
  | .pattern _ => none
  | .computed resolve => (resolve sample).writeName? sample
  | .list items => soleName (writeNames sample items)

def writeNames (sample : Option Sample) : List Series → List (Option String)
  | [] => []
  | item :: rest => item.writeName? sample :: writeNames sample rest

end

mutual

/-- The series of nested lists, from left to right. -/
def leaves : Series → List Series
  | .list items => leavesOf items
  | series => [series]

def leavesOf : List Series → List Series
  | [] => []
  | item :: rest => item.leaves ++ leavesOf rest

end

mutual

/-- The shape of a series, with texts inspected. -/
def describe : Series → String
  | .name text => "Name(" ++ Text.inspect text ++ ")"
  | .pattern p => "Pattern(" ++ Text.inspect p.source ++ ")"
  | .computed _ => "Computed(..)"
  | .list items => "List(" ++ Text.inspectList (describeItems items) ++ ")"

def describeItems : List Series → List String
  | [] => []
  | item :: rest => item.describe :: describeItems rest

end

/-- A series as a statement writes it. -/
def text (series : Series) : String := series.quoted none

def equal (a b : Series) : Bool := a.text == b.text

end Series

end Telemetry
