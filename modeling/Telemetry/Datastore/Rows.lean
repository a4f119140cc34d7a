import Telemetry.Datastore

/-!
# Rows on the wire

A datastore speaks of points as rows of a series: the names of the columns once, then one row of
values for each point. A point that is written is one row of its values, its tags and its time. Rows
that are read become objects, which are kept by series in the order they came; a row ends with the
shorter of itself and its columns, and of equal columns the last counts.
-/

namespace Telemetry

structure SeriesRows where
  name : String
  columns : List String
  rows : List (List Json)

namespace SeriesRows

def ofPayload (series : String) (payload : Payload) : SeriesRows :=
  let time := payload.timestamp.map fun t => ("time", Json.int t)
  let cells := payload.values.entries ++ payload.tags.entries ++ time.toList
  ⟨series, cells.map (·.1), [cells.map (·.2)]⟩

def toJson (s : SeriesRows) : Json :=
  .obj [("name", .str s.name), ("columns", .arr (s.columns.map .str)),
    ("points", .arr (s.rows.map .arr))]

def text? : Json → Option String
  | .str text => some text
  | _ => none

/-- Cells are kept with their members in key order. -/
def ofParts? (name columns : Json) (rows : Option Json) : Option SeriesRows := do
  let name ← text? name
  let columns ← (← columns.items?).mapM text?
  let rows ← match rows with
    | none => some []
    | some rows => (← rows.items?).mapM Json.items?
  return ⟨name, columns, rows.map (·.map Json.sorted)⟩

def fieldNames : List String := ["name", "columns", "points"]

/-- A member of a known name stands once. -/
def knownOnce (members : List (String × Json)) : Bool :=
  fieldNames.all fun field => (members.filter (·.1 = field)).length ≤ 1

/-- An object with the three members, the last of which may be missing, or an array in their
order. -/
def ofJson? : Json → Option SeriesRows
  | .arr [name, columns] => ofParts? name columns none
  | .arr [name, columns, rows] => ofParts? name columns (some rows)
  | .obj members =>
    if knownOnce members then do
      let name ← Json.member? members "name"
      let columns ← Json.member? members "columns"
      ofParts? name columns (Json.member? members "points")
    else none
  | _ => none

/-- The point of a row. -/
def point (columns : List String) (row : List Json) : Json :=
  .object (Keyed.ofList (columns.zip row))

def points (s : SeriesRows) : List Json := s.rows.map (point s.columns)

def collect (table : Keyed (List Json)) (s : SeriesRows) : Keyed (List Json) :=
  table.alter s.name fun earlier => earlier.getD [] ++ s.points

def response (entries : List SeriesRows) : Response :=
  .series (entries.foldl collect .empty)

end SeriesRows

end Telemetry
