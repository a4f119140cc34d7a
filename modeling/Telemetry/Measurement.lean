import Telemetry.Relation.Call

/-!
# Measurements

A measurement describes one kind of point: the series it lives in, the names of its tags and values,
the validators a point must pass, the hooks around a write, and the calls every relation of it
starts with.

No name is both a tag and a value, and the tag declaration wins. Validators are run together, in
passes counted over the life of the measurement, and may answer differently from pass to pass. A
hook acts on a point by setting its time and its attributes.
-/

namespace Telemetry

structure Failure where
  field : String
  message : String
deriving DecidableEq, Repr

def Failure.text (f : Failure) : String := f.field ++ " " ++ f.message

/-- What is wrong with a sample in the pass of a given number, counted from one. -/
abbrev Validator := Nat → Sample → Option Failure

/-- An attribute that is missing, null or a blank text fails. -/
def Validator.presence (field : String) : Validator := fun _ sample =>
  let blank := match sample.get? field with
    | none | some .null => true
    | some (.str text) => Text.allBlank text
    | some _ => false
  if blank then some ⟨field, "can't be blank"⟩ else none

inductive Action where
  | stamp (time : Instant)
  | set (name : String) (value : Json)

/-- A hook reads all that the point holds and then acts on it, one action after another. Hooks that
put another point in the place of the one they were given are left out. -/
structure Hook where
  name : String
  actions : Sample → List Action

structure Measurement where
  series : Series
  tags : List String
  values : List String
  validators : List Validator
  before : List Hook
  after : List Hook
  /-- The calls a relation starts with, unless it is taken unscoped. A default scope that is no list
  of calls, because it looks at the relation it is given or answers with another one, is left
  out. -/
  scope : Option (List Call)

inductive Declaration where
  | series (series : Series)
  | tags (names : List String)
  | values (names : List String)
  | presence (names : List String)
  | validator (check : Validator)
  | before (hook : Hook)
  | after (hook : Hook)
  | scope (calls : List Call)

namespace Measurement

def new (series : Series) : Measurement := ⟨series, [], [], [], [], [], none⟩

def addTag (m : Measurement) (name : String) : Measurement :=
  { m with
    tags := if m.tags.contains name then m.tags else m.tags ++ [name]
    values := m.values.filter (· ≠ name) }

def addValue (m : Measurement) (name : String) : Measurement :=
  if m.tags.contains name || m.values.contains name then m
  else { m with values := m.values ++ [name] }

def declare (m : Measurement) : Declaration → Measurement
  | .series series => { m with series }
  | .tags names => names.foldl addTag m
  | .values names => names.foldl addValue m
  | .presence names => { m with validators := m.validators ++ names.map .presence }
  | .validator check => { m with validators := m.validators ++ [check] }
  | .before hook => { m with before := m.before ++ [hook] }
  | .after hook => { m with after := m.after ++ [hook] }
  | .scope calls => { m with scope := some calls }

def ofDeclarations (series : Series) (declarations : List Declaration) : Measurement :=
  declarations.foldl declare (new series)

def isTag (m : Measurement) (name : String) : Bool := m.tags.contains name

def isValue (m : Measurement) (name : String) : Bool := m.values.contains name

def isAttribute (m : Measurement) (name : String) : Bool := m.isTag name || m.isValue name

/-- The failures of a sample in the pass of a given number, in the order of declaration. -/
def failures (m : Measurement) (pass : Nat) (sample : Sample) : List Failure :=
  m.validators.filterMap fun check => check pass sample

def describe (m : Measurement) : String :=
  let names (items : List String) := Text.inspectList (items.map Text.inspect)
  let count {α : Type} (items : List α) := toString items.length
  "Measurement \x7b " ++ ", ".intercalate
    ["series: " ++ m.series.describe, "tag_names: " ++ names m.tags,
      "value_names: " ++ names m.values, "validators: " ++ count m.validators,
      "before_write: " ++ count m.before, "after_write: " ++ count m.after,
      "default_scope: " ++ toString m.scope.isSome] ++ " \x7d"

end Measurement

end Telemetry
