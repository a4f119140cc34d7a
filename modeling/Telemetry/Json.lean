import Telemetry.Keyed
import Telemetry.Number.Layout

/-!
# JSON values

Integers and doubles are different values even when they are equal numbers. The members of an object
stand in the order of their keys once the object is sorted; a document keeps them as they were read.

The text of a value is compact: no blanks between tokens, characters beyond ASCII as they are,
control characters by their short escape where there is one. Doubles are positional from `0.00001`
to below `10 ^ 16`.
-/

namespace Telemetry

inductive Json where
  | null
  | bool (b : Bool)
  | int (n : Int)
  | double (x : Double)
  | str (s : String)
  | arr (items : List Json)
  | obj (members : List (String × Json))
deriving Inhabited

namespace Json

def object (table : Keyed Json) : Json := .obj table.entries

def member? (members : List (String × Json)) (key : String) : Option Json :=
  members.lookup key

/-- The items of an array. -/
def items? : Json → Option (List Json)
  | .arr items => some items
  | _ => none

mutual

/-- Members in key order, of equal keys the last, at every depth. -/
def sorted : Json → Json
  | .arr items => .arr (sortedItems items)
  | .obj members => .obj (Keyed.ofList (sortedMembers members)).entries
  | value => value

def sortedItems : List Json → List Json
  | [] => []
  | item :: rest => item.sorted :: sortedItems rest

def sortedMembers : List (String × Json) → List (String × Json)
  | [] => []
  | (key, value) :: rest => (key, value.sorted) :: sortedMembers rest

end

mutual

/-- Equality of documents: numbers of one kind by value, members in order. -/
def equal : Json → Json → Bool
  | .null, .null => true
  | .bool a, .bool b => a == b
  | .int a, .int b => a == b
  | .double a, .double b => a.equal b
  | .str a, .str b => a == b
  | .arr a, .arr b => equalItems a b
  | .obj a, .obj b => equalMembers a b
  | _, _ => false

def equalItems : List Json → List Json → Bool
  | [], [] => true
  | a :: as, b :: bs => a.equal b && equalItems as bs
  | _, _ => false

def equalMembers : List (String × Json) → List (String × Json) → Bool
  | [], [] => true
  | (k, a) :: as, (l, b) :: bs => k == l && a.equal b && equalMembers as bs
  | _, _ => false

end

def doubleLayout : Layout where
  least := some (-5)
  greatest := some 15
  pointZero := true
  plusSign := true
  tie := .even

def escapeChar (c : Char) : String :=
  match c with
  | '"' => "\\\""
  | '\\' => "\\\\"
  | '\x08' => "\\b"
  | '\x0c' => "\\f"
  | '\n' => "\\n"
  | '\r' => "\\r"
  | '\t' => "\\t"
  | c =>
    if c.toNat < 0x20 then "\\u00" ++ (if c.toNat < 0x10 then "0" else "")
      ++ String.ofList (Nat.toDigits 16 c.toNat)
    else c.toString

def stringText (s : String) : String :=
  "\"" ++ String.join (s.toList.map escapeChar) ++ "\""

mutual

def text : Json → String
  | .null => "null"
  | .bool b => if b then "true" else "false"
  | .int n => toString n
  | .double x => doubleLayout.double x
  | .str s => stringText s
  | .arr items => "[" ++ ",".intercalate (textItems items) ++ "]"
  | .obj members => "\x7b" ++ ",".intercalate (textMembers members) ++ "\x7d"

def textItems : List Json → List String
  | [] => []
  | item :: rest => item.text :: textItems rest

def textMembers : List (String × Json) → List String
  | [] => []
  | (key, value) :: rest => (stringText key ++ ":" ++ value.text) :: textMembers rest

end

end Json

end Telemetry
