import Telemetry.Json
import Telemetry.Number.Read

/-!
# Reading JSON

A document is read as it stands: members keep their order and their repetitions. An integer outside
the range of signed and unsigned words of sixty-four bits, and a negative zero, are doubles; a
double too great for its format is refused, and so is nesting of 128 levels or more.
-/

namespace Telemetry.Json

def skipSpace (text : List Char) : List Char :=
  text.dropWhile fun c => c = ' ' || c = '\t' || c = '\n' || c = '\r'

def hexDigit? (c : Char) : Option Nat :=
  if c.isDigit then some (c.toNat - '0'.toNat)
  else if 'a' ≤ c ∧ c ≤ 'f' then some (c.toNat - 'a'.toNat + 10)
  else if 'A' ≤ c ∧ c ≤ 'F' then some (c.toNat - 'A'.toNat + 10)
  else none

def hexValue? (digits : List Char) : Option Nat :=
  digits.foldlM (fun n c => (hexDigit? c).map (16 * n + ·)) 0

def unescape? : Char → Option Char
  | '"' => some '"'
  | '\\' => some '\\'
  | '/' => some '/'
  | 'b' => some '\x08'
  | 'f' => some '\x0c'
  | 'n' => some '\n'
  | 'r' => some '\r'
  | 't' => some '\t'
  | _ => none

/-- The character that a high and a low unit of sixteen bits stand for. -/
def pairChar? (high low : Nat) : Option Char :=
  if 0xDC00 ≤ low ∧ low < 0xE000 then
    some (Char.ofNat (0x10000 + (high - 0xD800) * 0x400 + (low - 0xDC00)))
  else none

/-- Reads a string after its opening quote; `read` holds the characters so far, last first. -/
def readString (read : List Char) : List Char → Option (String × List Char)
  | '"' :: rest => some (String.ofList read.reverse, rest)
  | '\\' :: 'u' :: a :: b :: c :: d :: rest => do
    let unit ← hexValue? [a, b, c, d]
    if 0xD800 ≤ unit ∧ unit < 0xDC00 then
      match rest with
      | '\\' :: 'u' :: e :: f :: g :: h :: rest =>
        let low ← hexValue? [e, f, g, h]
        let char ← pairChar? unit low
        readString (char :: read) rest
      | _ => none
    else if 0xDC00 ≤ unit ∧ unit < 0xE000 then none
    else readString (Char.ofNat unit :: read) rest
  | '\\' :: c :: rest => do
    let char ← unescape? c
    readString (char :: read) rest
  | c :: rest => if c.toNat < 0x20 then none else readString (c :: read) rest
  | [] => none

/-- The value of an integer numeral. -/
def ofInteger (negative : Bool) (n : Nat) : Json :=
  if negative then
    if n = 0 ∨ Nat.pow 2 63 < n then .double (Double.ofDecimal .double true n 0) else .int (-n)
  else if n < Nat.pow 2 64 then .int n
  else .double (Double.ofDecimal .double false n 0)

def readNumber (text : List Char) : Option (Json × List Char) := do
  let (negative, text) := match text with
    | '-' :: rest => (true, rest)
    | text => (false, text)
  let (whole, rest) := takeDigits text
  if whole.isEmpty || (1 < whole.length && whole.head? == some '0') then none
  let (fraction, rest) ← match rest with
    | '.' :: rest => do
      let (fraction, rest) := takeDigits rest
      if fraction.isEmpty then none else pure (some fraction, rest)
    | rest => pure (none, rest)
  let (exponent, rest) ← match rest with
    | c :: tail =>
      if c = 'e' || c = 'E' then (takeExponent? tail).map fun (n, rest) => (some n, rest)
      else pure (none, rest)
    | [] => pure (none, rest)
  if fraction.isNone && exponent.isNone then
    return (ofInteger negative (digitsValue whole), rest)
  let fraction := fraction.getD []
  let x := Double.ofDecimal .double negative (digitsValue (whole ++ fraction))
    (exponent.getD 0 - fraction.length)
  if x.isFinite then return (.double x, rest) else none

/-- Takes a fixed word off the front. -/
def readWord (word : String) (value : Json) (text : List Char) : Option (Json × List Char) :=
  if word.toList.isPrefixOf text then some (value, text.drop word.length) else none

mutual

/-- Reads a value; `depth` bounds the nesting and `fuel` the length of what is read. -/
def readValue (depth : Nat) : Nat → List Char → Option (Json × List Char)
  | 0, _ => none
  | fuel + 1, text =>
    match skipSpace text with
    | '"' :: rest => (readString [] rest).map fun (s, rest) => (.str s, rest)
    | '[' :: rest =>
      if depth = 0 then none
      else match skipSpace rest with
        | ']' :: rest => some (.arr [], rest)
        | rest => (readItems (depth - 1) fuel rest).map fun (items, rest) => (.arr items, rest)
    | '\x7b' :: rest =>
      if depth = 0 then none
      else match skipSpace rest with
        | '\x7d' :: rest => some (.obj [], rest)
        | rest => (readMembers (depth - 1) fuel rest).map fun (ms, rest) => (.obj ms, rest)
    | 'n' :: rest => readWord "ull" .null rest
    | 't' :: rest => readWord "rue" (.bool true) rest
    | 'f' :: rest => readWord "alse" (.bool false) rest
    | text => readNumber text

def readItems (depth : Nat) : Nat → List Char → Option (List Json × List Char)
  | 0, _ => none
  | fuel + 1, text => do
    let (item, rest) ← readValue depth fuel text
    match skipSpace rest with
    | ',' :: rest => (readItems depth fuel rest).map fun (items, rest) => (item :: items, rest)
    | ']' :: rest => some ([item], rest)
    | _ => none

def readMembers (depth : Nat) : Nat → List Char → Option (List (String × Json) × List Char)
  | 0, _ => none
  | fuel + 1, text => do
    match skipSpace text with
    | '"' :: rest =>
      let (key, rest) ← readString [] rest
      match skipSpace rest with
      | ':' :: rest =>
        let (value, rest) ← readValue depth fuel rest
        match skipSpace rest with
        | ',' :: rest =>
          (readMembers depth fuel rest).map fun (ms, rest) => ((key, value) :: ms, rest)
        | '\x7d' :: rest => some ([(key, value)], rest)
        | _ => none
      | _ => none
    | _ => none

end

/-- The document that a whole text spells. -/
def read? (text : String) : Option Json :=
  let chars := text.toList
  match readValue 127 (2 * chars.length + 2) chars with
  | some (value, rest) => if (skipSpace rest).isEmpty then some value else none
  | none => none

end Telemetry.Json
