import Telemetry.Toml.Lexeme

/-!
# Reading TOML

A document is a sequence of lines: pairs, headers of tables and headers of arrays of tables. Pairs
belong to the table of the last header. A document that defines anything twice is refused.
-/

namespace Telemetry.Toml

mutual

def readValue (depth : Nat) : Nat → List Char → Option (Toml × List Char)
  | 0, _ => none
  | fuel + 1, text =>
    match text with
    | '"' :: _ | '\x27' :: _ => (takeString? text).map fun (s, rest) => (.string s, rest)
    | '[' :: rest =>
      if depthLimit ≤ depth + 1 then none
      else (readItems (depth + 1) fuel rest).map fun (items, rest) => (.array items, rest)
    | '\x7b' :: rest =>
      if depthLimit ≤ depth + 1 then none
      else match skipSpace rest with
        | '\x7d' :: rest => some (.table .closed [], rest)
        | _ =>
          (readPairs (depth + 1) fuel [] rest).map fun (pairs, rest) => (.table .closed pairs, rest)
    | _ =>
      let (word, rest) := takeWord text
      (wordValue? word).map (·, rest)

/-- The items of an array after its opening bracket or a comma. -/
def readItems (depth : Nat) : Nat → List Char → Option (List Toml × List Char)
  | 0, _ => none
  | fuel + 1, text =>
    match skipLines text.length text with
    | ']' :: rest => some ([], rest)
    | text => do
      let (item, rest) ← readValue depth fuel text
      match skipLines rest.length rest with
      | ',' :: rest => do
        let (items, rest) ← readItems depth fuel rest
        return (item :: items, rest)
      | ']' :: rest => return ([item], rest)
      | _ => none

/-- The pairs of a table in braces, one at least, added to those before. -/
def readPairs (depth : Nat) : Nat → Entries → List Char → Option (Entries × List Char)
  | 0, _, _ => none
  | fuel + 1, entries, text => do
    let (path, key, rest) ← takeKey? text
    match rest with
    | '=' :: rest =>
      let (value, rest) ← readValue depth fuel (skipSpace rest)
      let entries ← addPair path key value .closed entries
      match skipSpace rest with
      | ',' :: rest => readPairs depth fuel entries rest
      | '\x7d' :: rest => return (entries, rest)
      | _ => none
    | _ => none

end

inductive Line where
  | pair (path : List String) (key : String) (value : Toml)
  | table (path : List String) (key : String)
  | tables (path : List String) (key : String)

/-- A line that says something, without its end. -/
def takeLineBody? (text : List Char) : Option (Line × List Char) :=
  match text with
  | '[' :: '[' :: rest => do
    match ← takeKey? rest with
    | (path, key, ']' :: ']' :: rest) => return (.tables path key, rest)
    | _ => none
  | '[' :: rest => do
    match ← takeKey? rest with
    | (path, key, ']' :: rest) => return (.table path key, rest)
    | _ => none
  | text => do
    match ← takeKey? text with
    | (path, key, '=' :: rest) =>
      let (value, rest) ← readValue 0 (2 * rest.length + 2) (skipSpace rest)
      return (.pair path key value, rest)
    | _ => none

def takeLines : Nat → List Char → Option (List Line)
  | 0, _ => none
  | fuel + 1, text =>
    match skipLines text.length text with
    | [] => some []
    | text => do
      let (line, rest) ← takeLineBody? text
      return line :: (← takeLines fuel (← takeLineEnd? rest))

/-- What is defined so far, and the header that pairs belong to. -/
structure Building where
  entries : Entries
  header : List String

def Building.add (b : Building) : Line → Option Building
  | .pair path key value => do
    let entries ← edit .implied (addPair path key value) .headed b.header b.entries
    return { b with entries }
  | .table path key => do
    return ⟨← openTable path key b.entries, path ++ [key]⟩
  | .tables path key => do
    return ⟨← openTables path key b.entries, path ++ [key]⟩

/-- Reads a document; a byte order mark may stand at its start. -/
def read? (text : String) : Option Toml := do
  let chars := match text.toList with
    | c :: rest => if c = '\uFEFF' then rest else c :: rest
    | [] => []
  let lines ← takeLines (chars.length + 1) chars
  let built ← lines.foldlM Building.add ⟨[], []⟩
  return .table .headed built.entries

end Telemetry.Toml
