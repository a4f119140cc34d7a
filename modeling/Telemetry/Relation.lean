import Telemetry.Measurement

/-!
# Relations

A relation holds the clauses of one query on a measurement. Calls add to it one at a time; a call
that is rejected changes nothing but the rejection, and only the first rejection is kept.

Relations merge: conditions and group terms of the other follow one's own, fields give way to the
other's if it has some, and what the other has set of the rest replaces one's own. Its series, if
different, and the series it merges join the merged series.

A relation is written as a `select` or a `delete` statement. Sections stand in a fixed order and are
left out when empty; the window of time is the last condition, and repeated fields or group terms
count once. A relation with a rejection has no statement.
-/

namespace Telemetry

structure Grouping where
  terms : List String
  bucket : Option Interval
  fill : Option Fill
deriving DecidableEq

structure Relation where
  measurement : Measurement
  series : Series
  fields : List String
  clauses : List Clause
  grouping : Grouping
  window : Option Window
  limit : Option Nat
  offset : Option Nat
  targets : List Series
  calculation : Option Calculation
  rejection : Option Rejection

namespace Relation

def new (m : Measurement) : Relation :=
  ⟨m, m.series, [], [], ⟨[], none, none⟩, none, none, none, [], none, none⟩

def reject (r : Relation) (rejection : Rejection) : Relation :=
  { r with rejection := r.rejection.or (some rejection) }

def add (r : Relation) : Except Rejection Clause → Relation
  | .ok clause => { r with clauses := r.clauses ++ [clause] }
  | .error rejection => r.reject rejection

def filter (r : Relation) (negated : Bool) (pair : String × Criterion) : Relation :=
  r.add (pair.2.clause pair.1 negated)

def bucket (r : Relation) (interval : Interval) : Relation :=
  { r with grouping := { r.grouping with bucket := some interval } }

def fill (r : Relation) (fill : Fill) : Relation :=
  match fill with
  | .float x =>
    if x.isFinite then { r with grouping := { r.grouping with fill := some fill } }
    else r.reject ⟨"fill", .notFinite x⟩
  | _ => { r with grouping := { r.grouping with fill := some fill } }

/-- A series that is neither read already nor merged already joins the merged series. -/
def addLeaf (r : Relation) (leaf : Series) : Relation :=
  if leaf.equal r.series || r.targets.any leaf.equal then r
  else { r with targets := r.targets ++ [leaf] }

def addTarget (r : Relation) (target : Series) : Relation :=
  target.leaves.foldl addLeaf r

def apply (r : Relation) : Call → Relation
  | .select fields => { r with fields := r.fields ++ fields }
  | .filters negated pairs => pairs.foldl (filter · negated ·) r
  | .raw text => r.add (Criterion.rawClause text)
  | .group terms => { r with grouping := { r.grouping with terms := r.grouping.terms ++ terms } }
  | .time interval => r.bucket interval
  | .timeWithFill interval fill => (r.bucket interval).fill fill
  | .fill fill => r.fill fill
  | .within window => { r with window := some window }
  | .limit n => { r with limit := some n }
  | .offset n => { r with offset := some n }
  | .merge series => r.addTarget series
  | .calculate calculation => { r with calculation := some calculation }

def run (r : Relation) (calls : List Call) : Relation := calls.foldl apply r

theorem run_append (r : Relation) (xs ys : List Call) : r.run (xs ++ ys) = (r.run xs).run ys :=
  List.foldl_append

def merged (r other : Relation) : Relation :=
  let joined := { r with
    clauses := r.clauses ++ other.clauses
    grouping :=
      { terms := r.grouping.terms ++ other.grouping.terms
        bucket := other.grouping.bucket.or r.grouping.bucket
        fill := other.grouping.fill.or r.grouping.fill }
    fields := if other.fields.isEmpty then r.fields else other.fields
    window := other.window.or r.window
    limit := other.limit.or r.limit
    offset := other.offset.or r.offset
    calculation := other.calculation.or r.calculation
    rejection := r.rejection.or other.rejection }
  let widened := if other.series.equal r.series then joined else joined.addTarget other.series
  other.targets.foldl addTarget widened

end Relation

namespace Measurement

/-- A relation that starts with the calls of the scope. -/
def all (m : Measurement) : Relation := (Relation.new m).run (m.scope.getD [])

def unscoped (m : Measurement) : Relation := Relation.new m

end Measurement

namespace Relation

def selection (r : Relation) : String :=
  match r.calculation with
  | some calculation => calculation.text
  | none => if r.fields.isEmpty then "*" else ",".intercalate r.fields.eraseDups

def conditions (r : Relation) : List String :=
  (r.clauses ++ (r.window.map Window.clause).toList).map Clause.text

/-- What the statement groups by, the time bucket first. -/
def groupTerms (r : Relation) : List String :=
  let bucket := r.grouping.bucket.map fun interval => "time(" ++ interval.text ++ ")"
  (bucket.toList ++ r.grouping.terms).eraseDups

/-- A section of its opening and its items, none for no items. -/
def sectionOf (opening separator : String) (items : List String) : List String :=
  if items.isEmpty then [] else [opening ++ " " ++ separator.intercalate items]

def sections (r : Relation) : List String :=
  ["from " ++ r.series.text]
    ++ r.targets.map ("merge " ++ ·.text)
    ++ sectionOf "where" " and " r.conditions
    ++ sectionOf "group by" "," r.groupTerms
    ++ (r.grouping.fill.map fun fill => "fill(" ++ fill.text ++ ")").toList
    ++ (r.limit.map fun n => "limit " ++ toString n).toList
    ++ (r.offset.map fun n => "offset " ++ toString n).toList

def selectStatement (r : Relation) : String :=
  " ".intercalate ("select" :: r.selection :: r.sections)

def deleteStatement (r : Relation) : String :=
  " ".intercalate ("delete" :: r.sections)

def toSelect (r : Relation) : Except Rejection String :=
  match r.rejection with
  | some rejection => .error rejection
  | none => .ok r.selectStatement

def toDelete (r : Relation) : Except Rejection String :=
  match r.rejection with
  | some rejection => .error rejection
  | none => .ok r.deleteStatement

end Relation

end Telemetry
