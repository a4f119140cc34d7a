import Telemetry.Series
import Telemetry.Text.Letter

/-!
# Series names from type names

The name of a type names its series in snake case: `Admin::UserVisitsMetrics` gives
`admin_user_visits`. One `Metrics` at the end is dropped unless nothing else is left, the segments
of a namespace are joined by an underscore, and empty segments count for nothing.
-/

namespace Telemetry.TypeName

open Text (isUpper isLower lowered)

/-- The segments between pairs of colons, read from the left. -/
def segments : List Char → List (List Char)
  | [] => [[]]
  | ':' :: ':' :: rest => [] :: segments rest
  | c :: rest =>
    match segments rest with
    | [] => [[c]]
    | first :: others => (c :: first) :: others

/-- A capital starts a word after a small letter or a digit, and after a capital when a small letter
follows. -/
def startsWord (before : Option Char) (next : Option Char) : Bool :=
  match before with
  | none => false
  | some p => isLower p || p.isDigit || isUpper p && next.any isLower

def snakeCase (before : Option Char) : List Char → List Char
  | [] => []
  | c :: rest =>
    let tail := snakeCase (some c) rest
    if !isUpper c then c :: tail
    else if startsWord before rest.head? then '_' :: lowered c ++ tail
    else lowered c ++ tail

def ending : List Char := "Metrics".toList

/-- The name less one `Metrics` at its end, if that leaves something. -/
def stem (name : List Char) : List Char :=
  if ending.isSuffixOf name && name.length ≠ ending.length then
    name.take (name.length - ending.length)
  else name

def seriesName (typeName : String) : String :=
  let words := (segments (stem typeName.toList)).filter (· ≠ [])
  "_".intercalate (words.map fun word => String.ofList (snakeCase none word))

end Telemetry.TypeName

namespace Telemetry

def Series.ofTypeName (typeName : String) : Series := .name (TypeName.seriesName typeName)

end Telemetry
