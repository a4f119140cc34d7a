import Telemetry.Text.Visible

/-!
# Quoted text

Three quotings of a statement. A string value stands in single quotes and escapes quotes and
backslashes. A series name stands in double quotes and escapes double quotes alone. A pattern stands
between slashes and escapes the slashes that its own backslashes do not escape yet.

Descriptions show a text in a form of their own: in double quotes, with quotes and backslashes
escaped, four control characters by a letter, and every other hidden character by its code point.
-/

namespace Telemetry.Text

/-- Puts a backslash before each marked character. -/
def escape (marked : Char → Bool) : List Char → List Char
  | [] => []
  | c :: rest => if marked c then '\\' :: c :: escape marked rest else c :: escape marked rest

def quoteValue (text : String) : String :=
  "'" ++ String.ofList (escape (fun c => c = '\x27' || c = '\\') text.toList) ++ "'"

def quoteName (name : String) : String :=
  "\"" ++ String.ofList (escape (· = '"') name.toList) ++ "\""

/-- Escapes bare slashes; `held` tells that the character before was an unescaped backslash. -/
def escapeSlashes (held : Bool) : List Char → List Char
  | [] => []
  | c :: rest =>
    let body := c :: escapeSlashes (c = '\\' && !held) rest
    if c = '/' && !held then '\\' :: body else body

def quotePattern (source : String) : String :=
  "/" ++ String.ofList (escapeSlashes false source.toList) ++ "/"

theorem escape_append (marked : Char → Bool) (xs ys : List Char) :
    escape marked (xs ++ ys) = escape marked xs ++ escape marked ys := by
  induction xs with
  | nil => rfl
  | cons c rest ih => by_cases h : marked c <;> simp [escape, h, ih]

/-- The digits of a number in base sixteen, small letters, no leading zero. -/
def hex (n : Nat) : String :=
  String.ofList (Nat.toDigits 16 n)

def inspectChar (c : Char) : String :=
  match c with
  | '\x00' => "\\0"
  | '\t' => "\\t"
  | '\r' => "\\r"
  | '\n' => "\\n"
  | '"' => "\\\""
  | '\\' => "\\\\"
  | c => if isVisible c then c.toString else "\\u\x7b" ++ hex c.toNat ++ "\x7d"

def inspect (text : String) : String :=
  "\"" ++ String.join (text.toList.map inspectChar) ++ "\""

/-- Items in brackets, set apart by a comma and a space. -/
def inspectList (items : List String) : String :=
  "[" ++ ", ".intercalate items ++ "]"

end Telemetry.Text
