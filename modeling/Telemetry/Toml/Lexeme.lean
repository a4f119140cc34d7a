import Telemetry.Json.Read
import Telemetry.Toml.Basic

/-!
# Lexemes of TOML

Blanks, line ends, comments, strings, keys, and the words that are numbers, truth values, dates and
times. A reader takes the text it is to read and answers what it read and what is left.
-/

namespace Telemetry.Toml

def isSpace (c : Char) : Bool := c = ' ' || c = '\t'

def skipSpace (text : List Char) : List Char := text.dropWhile isSpace

/-- No control character but the tabulator. -/
def isPlain (c : Char) : Bool := c = '\t' || 0x20 ≤ c.toNat && c.toNat ≠ 0x7F

def takeNewline? : List Char → Option (List Char)
  | '\n' :: rest => some rest
  | '\r' :: '\n' :: rest => some rest
  | _ => none

def skipComment : List Char → List Char
  | '#' :: rest => rest.dropWhile isPlain
  | text => text

/-- The end of a line, with blanks and a comment before it. -/
def takeLineEnd? (text : List Char) : Option (List Char) :=
  match skipComment (skipSpace text) with
  | [] => some []
  | rest => takeNewline? rest

/-- Blanks and line ends. -/
def skipGap : List Char → List Char
  | ' ' :: rest => skipGap rest
  | '\t' :: rest => skipGap rest
  | '\n' :: rest => skipGap rest
  | '\r' :: '\n' :: rest => skipGap rest
  | text => text

/-- Blanks, line ends and comments. -/
def skipLines : Nat → List Char → List Char
  | 0, text => text
  | fuel + 1, text =>
    let rest := skipComment (skipSpace text)
    match takeNewline? rest with
    | some rest => skipLines fuel rest
    | none => rest

def codePoint? (digits : List Char) : Option Char := do
  let n ← Json.hexValue? digits
  if n.isValidChar then some (Char.ofNat n) else none

/-- The character of an escape, after its backslash. -/
def takeEscape? : List Char → Option (Char × List Char)
  | 'u' :: a :: b :: c :: d :: rest => (codePoint? [a, b, c, d]).map (·, rest)
  | 'U' :: a :: b :: c :: d :: e :: f :: g :: h :: rest =>
    (codePoint? [a, b, c, d, e, f, g, h]).map (·, rest)
  | '"' :: rest => some ('"', rest)
  | '\\' :: rest => some ('\\', rest)
  | 'b' :: rest => some ('\x08', rest)
  | 'f' :: rest => some ('\x0c', rest)
  | 'n' :: rest => some ('\n', rest)
  | 'r' :: rest => some ('\r', rest)
  | 't' :: rest => some ('\t', rest)
  | _ => none

/-- A string on one line, after its opening quote; `read` holds the characters so far, last
first. -/
def readBasic (read : List Char) : Nat → List Char → Option (String × List Char)
  | 0, _ => none
  | _ + 1, '"' :: rest => some (String.ofList read.reverse, rest)
  | fuel + 1, '\\' :: rest => do
    let (c, rest) ← takeEscape? rest
    readBasic (c :: read) fuel rest
  | fuel + 1, c :: rest => if isPlain c then readBasic (c :: read) fuel rest else none
  | _ + 1, [] => none

/-- A string on several lines, after three quotes. A backslash at the end of a line takes the gap
after it away, and up to two quotes may stand before the closing three. -/
def readBasicLines (read : List Char) : Nat → List Char → Option (String × List Char)
  | 0, _ => none
  | _ + 1, '"' :: '"' :: '"' :: '"' :: '"' :: rest =>
    some (String.ofList ('"' :: '"' :: read).reverse, rest)
  | _ + 1, '"' :: '"' :: '"' :: '"' :: rest => some (String.ofList ('"' :: read).reverse, rest)
  | _ + 1, '"' :: '"' :: '"' :: rest => some (String.ofList read.reverse, rest)
  | fuel + 1, '\\' :: rest =>
    match takeNewline? (skipSpace rest) with
    | some rest => readBasicLines read fuel (skipGap rest)
    | none => do
      let (c, rest) ← takeEscape? rest
      readBasicLines (c :: read) fuel rest
  | fuel + 1, c :: rest =>
    match takeNewline? (c :: rest) with
    | some rest => readBasicLines ('\n' :: read) fuel rest
    | none => if isPlain c then readBasicLines (c :: read) fuel rest else none
  | _ + 1, [] => none

/-- A string without escapes on one line. -/
def readLiteral (read : List Char) : List Char → Option (String × List Char)
  | '\x27' :: rest => some (String.ofList read.reverse, rest)
  | c :: rest => if isPlain c then readLiteral (c :: read) rest else none
  | [] => none

def readLiteralLines (read : List Char) : Nat → List Char → Option (String × List Char)
  | 0, _ => none
  | _ + 1, '\x27' :: '\x27' :: '\x27' :: '\x27' :: '\x27' :: rest =>
    some (String.ofList ('\x27' :: '\x27' :: read).reverse, rest)
  | _ + 1, '\x27' :: '\x27' :: '\x27' :: '\x27' :: rest =>
    some (String.ofList ('\x27' :: read).reverse, rest)
  | _ + 1, '\x27' :: '\x27' :: '\x27' :: rest => some (String.ofList read.reverse, rest)
  | fuel + 1, c :: rest =>
    match takeNewline? (c :: rest) with
    | some rest => readLiteralLines ('\n' :: read) fuel rest
    | none => if isPlain c then readLiteralLines (c :: read) fuel rest else none
  | _ + 1, [] => none

/-- A line end right after the opening quotes is no part of the string. -/
def afterOpening (text : List Char) : List Char := (takeNewline? text).getD text

/-- A string on one line, of either kind. -/
def takeLine? : List Char → Option (String × List Char)
  | '"' :: rest => readBasic [] (rest.length + 1) rest
  | '\x27' :: rest => readLiteral [] rest
  | _ => none

def takeString? : List Char → Option (String × List Char)
  | '"' :: '"' :: '"' :: rest => readBasicLines [] (rest.length + 1) (afterOpening rest)
  | '\x27' :: '\x27' :: '\x27' :: rest => readLiteralLines [] (rest.length + 1) (afterOpening rest)
  | text => takeLine? text

/-- Nesting and keys of this depth are refused. -/
def depthLimit : Nat := 80

def isBare (c : Char) : Bool := c.isAlphanum || c = '_' || c = '-'

def takePart? (text : List Char) : Option (String × List Char) :=
  match text with
  | '"' :: _ | '\x27' :: _ => takeLine? text
  | _ =>
    match text.takeWhile isBare with
    | [] => none
    | bare => some (String.ofList bare, text.dropWhile isBare)

def takeParts : Nat → List Char → Option (List String × List Char)
  | 0, _ => none
  | fuel + 1, text => do
    let (part, rest) ← takePart? (skipSpace text)
    match skipSpace rest with
    | '.' :: rest => do
      let (parts, rest) ← takeParts fuel rest
      return (part :: parts, rest)
    | rest => return ([part], rest)

/-- A key of parts set apart by points, with blanks around each. -/
def takeKey? (text : List Char) : Option (List String × String × List Char) := do
  let (parts, rest) ← takeParts (depthLimit - 1) text
  let (path, key) ← splitKey? parts
  return (path, key, rest)

/-- Digits with underscores between them, without the underscores. -/
def groupedDigits? (isDigit : Char → Bool) (text : List Char) : Option (List Char) :=
  let groups := (String.ofList text).splitOn "_"
  if groups.all (fun group => !group.isEmpty && group.toList.all isDigit) then
    some (text.filter (· ≠ '_'))
  else none

/-- A whole number in base ten without leading zeros, its digits. -/
def wholeDigits? (text : List Char) : Option (List Char) := do
  let digits ← groupedDigits? Char.isDigit text
  if digits.length ≠ 1 ∧ text.head? = some '0' then none else some digits

def takeSign : List Char → Bool × List Char
  | '-' :: rest => (true, rest)
  | '+' :: rest => (false, rest)
  | text => (false, text)

def inBase? (base : Nat) (text : List Char) : Option Nat := do
  let digits ← groupedDigits? (fun c => (Json.hexDigit? c).any (· < base)) text
  digits.foldlM (fun n c => (Json.hexDigit? c).map (base * n + ·)) 0

def magnitude? : List Char → Option Int
  | '0' :: 'x' :: rest => (inBase? 16 rest).map Int.ofNat
  | '0' :: 'o' :: rest => (inBase? 8 rest).map Int.ofNat
  | '0' :: 'b' :: rest => (inBase? 2 rest).map Int.ofNat
  | text => do
    let (negative, body) := takeSign text
    let n := digitsValue (← wholeDigits? body)
    return if negative then -n else n

/-- An integer of sixty-four bits. -/
def integer? (text : List Char) : Option Int :=
  (magnitude? text).filter fun n =>
    -(Nat.pow 2 63 : Nat) ≤ n ∧ n < (Nat.pow 2 63 : Nat)

def exponent? (text : List Char) : Option (List Char) :=
  let (negative, body) := takeSign text
  (groupedDigits? Char.isDigit body).map fun digits => if negative then '-' :: digits else digits

/-- The parts of a float: whole digits, then a fraction or an exponent or both. -/
def decimal? (text : List Char) : Option (List Char) := do
  let isMark (c : Char) : Bool := c = 'e' || c = 'E'
  let mantissa := text.takeWhile fun c => !isMark c
  let whole ← wholeDigits? (mantissa.takeWhile (· ≠ '.'))
  let fraction ← match mantissa.dropWhile (· ≠ '.') with
    | [] => some []
    | _ :: digits => ('.' :: ·) <$> groupedDigits? Char.isDigit digits
  let exponent ← match text.dropWhile fun c => !isMark c with
    | [] => some []
    | _ :: rest => ('e' :: ·) <$> exponent? rest
  if fraction.isEmpty && exponent.isEmpty then none else some (whole ++ fraction ++ exponent)

/-- A float; one too great for its format is refused. -/
def float? (text : List Char) : Option Double :=
  let (negative, body) := takeSign text
  match String.ofList body with
  | "inf" => some (.infinity negative)
  | "nan" => some .nan
  | _ => do
    let digits ← decimal? body
    let x ← Double.read? .double (String.ofList (if negative then '-' :: digits else digits))
    if x = .infinity false then none else some x

def twoDigits? (tens units : Char) : Option Nat := natural? [tens, units]

def isLeap (year : Nat) : Bool := year % 4 = 0 && (year % 100 ≠ 0 || year % 400 = 0)

def daysIn (year : Nat) : Nat → Nat
  | 2 => if isLeap year then 29 else 28
  | 4 | 6 | 9 | 11 => 30
  | _ => 31

def takeDate? : List Char → Option (List Char)
  | a :: b :: c :: d :: '-' :: m :: n :: '-' :: x :: y :: rest => do
    let year ← natural? [a, b, c, d]
    let month ← twoDigits? m n
    let day ← twoDigits? x y
    if 1 ≤ month ∧ month ≤ 12 ∧ 1 ≤ day ∧ day ≤ daysIn year month then some rest else none
  | _ => none

def takeClock? : List Char → Option (List Char)
  | a :: b :: ':' :: c :: d :: rest => do
    let hour ← twoDigits? a b
    let minute ← twoDigits? c d
    if hour < 24 ∧ minute < 60 then some rest else none
  | _ => none

/-- A time with seconds, which may be a leap second and may have a fraction. -/
def takeTime? (text : List Char) : Option (List Char) := do
  match ← takeClock? text with
  | ':' :: a :: b :: rest =>
    let second ← twoDigits? a b
    if 60 < second then none
    match rest with
    | '.' :: rest =>
      let (digits, rest) := takeDigits rest
      if digits.isEmpty then none else some rest
    | rest => some rest
  | _ => none

def isOffset : List Char → Bool
  | [] => true
  | ['Z'] | ['z'] => true
  | '+' :: rest | '-' :: rest => takeClock? rest = some []
  | _ => false

/-- A date, a time, or both with a letter or a blank between them and an offset or none. -/
def isMoment (text : List Char) : Bool :=
  match takeDate? text with
  | none => takeTime? text = some []
  | some [] => true
  | some (c :: rest) => (c = 'T' || c = 't' || c = ' ') && (takeTime? rest).any isOffset

def isWordChar (c : Char) : Bool := c.isAlphanum || ['+', '-', '.', ':', '_'].contains c

/-- A word, together with the one after a blank where the two are a date and a time. -/
def takeWord (text : List Char) : List Char × List Char :=
  let word := text.takeWhile isWordChar
  let rest := text.dropWhile isWordChar
  match takeDate? word, rest with
  | some [], ' ' :: c :: more =>
    if c.isDigit then
      (word ++ ' ' :: (c :: more).takeWhile isWordChar, (c :: more).dropWhile isWordChar)
    else (word, rest)
  | _, _ => (word, rest)

def wordValue? (word : List Char) : Option Toml :=
  match String.ofList word with
  | "true" => some (.boolean true)
  | "false" => some (.boolean false)
  | text =>
    if isMoment word then some (.moment text)
    else match integer? word, float? word with
      | some n, _ => some (.integer n)
      | none, some x => some (.float x)
      | none, none => none

end Telemetry.Toml
