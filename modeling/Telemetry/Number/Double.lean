/-!
# Binary floating point by its bits

A double is its sixty-four bits: a sign, an exponent field of eleven and a fraction of fifty-two.
Finite values are `± significand * 2 ^ scale`. Equality of numbers is not equality of bits: zero has
two signs, and no number equals NaN.
-/

namespace Telemetry

structure Double where
  bits : UInt64
deriving DecidableEq, Repr

namespace Double

def isNegative (x : Double) : Bool := Nat.pow 2 63 ≤ x.bits.toNat

def exponentField (x : Double) : Nat := x.bits.toNat / Nat.pow 2 52 % Nat.pow 2 11

def fraction (x : Double) : Nat := x.bits.toNat % Nat.pow 2 52

def isFinite (x : Double) : Bool := x.exponentField ≠ 2047

def isNaN (x : Double) : Bool := x.exponentField = 2047 && x.fraction ≠ 0

def isZero (x : Double) : Bool := x.exponentField = 0 && x.fraction = 0

def equal (x y : Double) : Bool :=
  !x.isNaN && !y.isNaN && (x.bits == y.bits || x.isZero && y.isZero)

def significand (x : Double) : Nat :=
  if x.exponentField = 0 then x.fraction else Nat.pow 2 52 + x.fraction

def scale (x : Double) : Int :=
  if x.exponentField = 0 then -1074 else (x.exponentField : Int) - 1075

private def signed (negative : Bool) (magnitude : Nat) : Double :=
  ⟨UInt64.ofNat (if negative then Nat.pow 2 63 + magnitude else magnitude)⟩

def zero (negative : Bool) : Double := signed negative 0

def infinity (negative : Bool) : Double := signed negative (2047 * Nat.pow 2 52)

def nan : Double := signed false (2047 * Nat.pow 2 52 + Nat.pow 2 51)

/-- The double `± significand * 2 ^ scale`, for a significand of at most 53 bits in its place. -/
def ofParts (negative : Bool) (significand : Nat) (scale : Int) : Double :=
  if significand < Nat.pow 2 52 then signed negative significand
  else signed negative ((scale + 1075).toNat * Nat.pow 2 52 + (significand - Nat.pow 2 52))

end Double

end Telemetry
