import Telemetry.Number.Double

/-!
# Numerals

Digits read from the front of a text, and the free-standing numeral of an argument: a sign, digits
with a point anywhere among them, an exponent, or a name for infinity or NaN in any case.

What is read is always the nearest representable number. A positive quotient is rounded to a binary
format in one step: to nearest, ties to the even significand, with infinity above the greatest
number and gradual underflow below the least normal one.
-/

namespace Telemetry

/-- A binary format: bits of the significand, least and greatest scale. -/
structure BinaryFormat where
  precision : Nat
  least : Int
  greatest : Int

namespace BinaryFormat

def double : BinaryFormat := ⟨53, -1074, 971⟩

def single : BinaryFormat := ⟨24, -149, 104⟩

end BinaryFormat

/-- The quotient rounded to an integer, a half to the even neighbour. -/
def roundQuotient (num den : Nat) : Nat :=
  let q := num / den
  let r := num % den
  if 2 * r < den then q else if den < 2 * r then q + 1 else q + q % 2

/-- The greatest `e` with `2 ^ e` at most the quotient. -/
def binaryOrder (num den : Nat) : Int :=
  let guess : Int := num.log2 - den.log2
  if num * Nat.pow 2 (-guess).toNat < den * Nat.pow 2 guess.toNat then guess - 1 else guess

namespace BinaryFormat

/-- Significand and scale of the nearest number of the format, none if that is infinity. -/
def nearest? (format : BinaryFormat) (num den : Nat) : Option (Nat × Int) :=
  let scale := max format.least (binaryOrder num den - (format.precision - 1 : Nat))
  let m := roundQuotient (num * Nat.pow 2 (-scale).toNat) (den * Nat.pow 2 scale.toNat)
  let (m, scale) := if m = Nat.pow 2 format.precision then (m / 2, scale + 1) else (m, scale)
  if format.greatest < scale then none else some (m, scale)

end BinaryFormat

namespace Double

/-- The double nearest to the value of another format that is nearest to the quotient. -/
def ofQuotient (format : BinaryFormat) (negative : Bool) (num den : Nat) : Double :=
  match format.nearest? num den with
  | none => infinity negative
  | some (m, scale) =>
    if m = 0 then zero negative
    else match BinaryFormat.double.nearest? (m * Nat.pow 2 scale.toNat)
        (Nat.pow 2 (-scale).toNat) with
      | none => infinity negative
      | some (m, scale) => ofParts negative m scale

/-- Reads `± digits * 10 ^ exponent`, rounded to the format. Orders of magnitude far outside every
format are cut short. -/
def ofDecimal (format : BinaryFormat) (negative : Bool) (digits : Nat) (exponent : Int) : Double :=
  let order := (Nat.toDigits 10 digits).length + exponent
  if digits = 0 || order < -400 then zero negative
  else if 400 < order then infinity negative
  else
    ofQuotient format negative (digits * Nat.pow 10 exponent.toNat) (Nat.pow 10 (-exponent).toNat)

end Double

/-- The value of a list of decimal digits. -/
def digitsValue (digits : List Char) : Nat :=
  digits.foldl (fun n c => 10 * n + (c.toNat - '0'.toNat)) 0

def takeDigits (text : List Char) : List Char × List Char :=
  (text.takeWhile Char.isDigit, text.dropWhile Char.isDigit)

/-- A number of decimal digits, one at least, and nothing else. -/
def natural? (text : List Char) : Option Nat :=
  if text ≠ [] ∧ text.all Char.isDigit then some (digitsValue text) else none

/-- The exponent after its mark: a sign or none, then digits. -/
def takeExponent? (text : List Char) : Option (Int × List Char) :=
  let (negative, text) := match text with
    | '-' :: rest => (true, rest)
    | '+' :: rest => (false, rest)
    | text => (false, text)
  match takeDigits text with
  | ([], _) => none
  | (digits, rest) =>
    let n : Int := digitsValue digits
    some (if negative then -n else n, rest)

private def unsignedNumeral? (format : BinaryFormat) (negative : Bool) (text : List Char) :
    Option Double :=
  let (whole, rest) := takeDigits text
  let (fraction, rest) := match rest with
    | '.' :: rest => takeDigits rest
    | rest => ([], rest)
  if whole.isEmpty && fraction.isEmpty then none
  else
    let value (exponent : Int) :=
      some (Double.ofDecimal format negative (digitsValue (whole ++ fraction))
        (exponent - fraction.length))
    match rest with
    | [] => value 0
    | mark :: rest =>
      if mark = 'e' || mark = 'E' then
        match takeExponent? rest with
        | some (exponent, []) => value exponent
        | _ => none
      else none

/-- The number that a whole text spells in a format, widened to a double. -/
def Double.read? (format : BinaryFormat) (text : String) : Option Double :=
  let (negative, body) := match text.toList with
    | '-' :: rest => (true, rest)
    | '+' :: rest => (false, rest)
    | body => (false, body)
  match String.ofList (body.map Char.toLower) with
  | "inf" | "infinity" => some (infinity negative)
  | "nan" => some nan
  | _ => unsignedNumeral? format negative body

end Telemetry
