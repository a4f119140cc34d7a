import Telemetry.Number.Double

/-!
# TOML tables

The values of a configuration document. A table remembers how it came about, since that decides what
may still be added to it: an implied table was named on the way to another one, a dotted table by
the key of a pair, a headed table by its own header. Tables in braces are closed. An array of tables
is open at its last table.
-/

namespace Telemetry

inductive Toml.Origin where
  | implied
  | dotted
  | headed
  | closed
deriving DecidableEq, Repr

inductive Toml where
  | string (text : String)
  | integer (n : Int)
  | float (x : Double)
  | boolean (b : Bool)
  | moment (text : String)
  | array (items : List Toml)
  | table (origin : Toml.Origin) (entries : List (String × Toml))
  | tables (members : List (List (String × Toml)))

namespace Toml

abbrev Entries := List (String × Toml)

def replace (key : String) (value : Toml) (entries : Entries) : Entries :=
  entries.map fun entry => if entry.1 = key then (key, value) else entry

/-- Edits the table at the end of a path; tables that are missing on the way are of the given
origin. A path of a pair does not lead through headed tables. -/
def edit (missing : Origin) (act : Origin → Entries → Option Entries) :
    Origin → List String → Entries → Option Entries
  | origin, [], entries => act origin entries
  | _, key :: path, entries =>
    match entries.lookup key with
    | none => do
      let inner ← edit missing act missing path []
      return entries ++ [(key, .table missing inner)]
    | some (.table origin inner) =>
      if origin = .closed ∨ missing = .dotted ∧ origin = .headed then none
      else do
        let inner ← edit missing act origin path inner
        return replace key (.table origin inner) entries
    | some (.tables members) => do
      let inner ← edit missing act .headed path (← members.getLast?)
      return replace key (.tables (members.dropLast ++ [inner])) entries
    | some _ => none

/-- Adds a pair under a key of one or more parts. Parts before the last make or extend dotted tables
alone. -/
def addPair (path : List String) (key : String) (value : Toml) (origin : Origin)
    (entries : Entries) : Option Entries :=
  edit .dotted (fun origin entries =>
    if decide (origin = .dotted) = path.isEmpty || (entries.lookup key).isSome then none
    else some (entries ++ [(key, value)])) origin path entries

/-- Opens the table of a header, new or implied before. -/
def openTable (path : List String) (key : String) : Entries → Option Entries :=
  edit .implied (fun _ entries =>
    match entries.lookup key with
    | none => some (entries ++ [(key, .table .headed [])])
    | some (.table .implied inner) => some (replace key (.table .headed inner) entries)
    | some _ => none) .headed path

/-- Opens a new table at the end of an array of tables. -/
def openTables (path : List String) (key : String) : Entries → Option Entries :=
  edit .implied (fun _ entries =>
    match entries.lookup key with
    | none => some (entries ++ [(key, .tables [[]])])
    | some (.tables members) => some (replace key (.tables (members ++ [[]])) entries)
    | some _ => none) .headed path

/-- Splits a key of several parts into those before the last and the last. -/
def splitKey? (parts : List String) : Option (List String × String) :=
  parts.getLast?.map (parts.dropLast, ·)

end Toml

end Telemetry
