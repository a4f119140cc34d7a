import Telemetry.Number.Double

/-!
# How numbers are written

A finite number is written with the fewest decimal digits that read back to it. The reals that round
to it reach halfway to its neighbours, ends included when its significand is even; the gap below a
power of two is half as wide. The first decimal grid, from coarse to fine, with a point among those
reals gives the digits: of two points the nearer, and of two equally near ones the rule decides.

A layout decides where positional notation ends, whether a whole number keeps `.0`, whether a
positive exponent is signed, and which of two equally near decimals is taken. Statements know two
layouts: operands of conditions may be written with an exponent, arguments never are.
-/

namespace Telemetry

structure Decimal where
  digits : Nat
  exponent : Int
deriving DecidableEq, Repr

inductive Tie where
  | up
  | even
deriving DecidableEq, Repr

/-- A positive number among the reals that round to it, as numerators over one denominator. -/
structure Neighbourhood where
  value : Nat
  low : Nat
  high : Nat
  denominator : Nat
  closed : Bool

namespace Neighbourhood

def ofDouble (x : Double) : Neighbourhood :=
  let m := x.significand
  let narrow := x.fraction = 0 && 1 < x.exponentField
  let up := Nat.pow 2 (x.scale - 2).toNat
  { value := 4 * m * up
    low := (if narrow then 4 * m - 1 else 4 * m - 2) * up
    high := (4 * m + 2) * up
    denominator := Nat.pow 2 (2 - x.scale).toNat
    closed := m % 2 = 0 }

/-- The decimal lies among the reals that round to the number. -/
def holds (n : Neighbourhood) (d : Decimal) : Bool :=
  let point := d.digits * Nat.pow 10 d.exponent.toNat * n.denominator
  let unit := Nat.pow 10 (-d.exponent).toNat
  if n.closed then n.low * unit ≤ point && point ≤ n.high * unit
  else n.low * unit < point && point < n.high * unit

/-- The point of the grid `10 ^ exponent` that stands for the number, if one does. -/
def onGrid (n : Neighbourhood) (tie : Tie) (exponent : Int) : Option Decimal :=
  let num := n.value * Nat.pow 10 (-exponent).toNat
  let den := n.denominator * Nat.pow 10 exponent.toNat
  let below : Decimal := ⟨num / den, exponent⟩
  let above : Decimal := ⟨num / den + 1, exponent⟩
  match n.holds below, n.holds above with
  | true, false => some below
  | false, true => some above
  | false, false => none
  | true, true =>
    let rest := 2 * (num % den)
    if rest < den then some below
    else if den < rest then some above
    else match tie with
      | .up => some above
      | .even => if num / den % 2 = 0 then some below else some above

/-- The least `k` with the number below `10 ^ k`. -/
def decimalOrder (n : Neighbourhood) : Int :=
  let guess : Int := ((n.value.log2 : Int) - n.denominator.log2 - 1) * 30103 / 100000 - 1
  let fits (k : Int) := n.value * Nat.pow 10 (-k).toNat < n.denominator * Nat.pow 10 k.toNat
  match (List.range 5).find? fun (i : Nat) => fits (guess + i) with
  | some i => guess + i
  | none => guess + 5

end Neighbourhood

/-- Moves the zeros at the end of the digits into the exponent. -/
def Decimal.strip (d : Decimal) : Decimal :=
  go (Nat.toDigits 10 d.digits).length d
where
  go : Nat → Decimal → Decimal
    | 0, d => d
    | fuel + 1, d =>
      if d.digits ≠ 0 ∧ d.digits % 10 = 0 then go fuel ⟨d.digits / 10, d.exponent + 1⟩ else d

/-- The fewest digits of a finite number other than zero, without its sign. -/
def Double.shortest (tie : Tie) (x : Double) : Decimal :=
  let n := Neighbourhood.ofDouble x
  let order := n.decimalOrder
  match (List.range 17).findSome? fun i => n.onGrid tie (order - (i + 1 : Nat)) with
  | some d => d.strip
  -- seventeen digits always suffice; the exact value stands in without a guess
  | none => ⟨x.significand * Nat.pow 2 x.scale.toNat * Nat.pow 5 (-x.scale).toNat, min x.scale 0⟩

structure Layout where
  /-- Least exponent of the leading digit that is written positionally; none: no bound. -/
  least : Option Int
  /-- Greatest such exponent; none: no bound. -/
  greatest : Option Int
  pointZero : Bool
  plusSign : Bool
  tie : Tie

namespace Layout

def operand : Layout where
  least := some (-4)
  greatest := some 15
  pointZero := true
  plusSign := false
  tie := .up

def argument : Layout where
  least := none
  greatest := none
  pointZero := false
  plusSign := false
  tie := .up

private def zeros (n : Nat) : String := String.ofList (List.replicate n '0')

def positional (layout : Layout) (leading : Int) : Bool :=
  layout.least.all (· ≤ leading) && layout.greatest.all (leading ≤ ·)

def decimal (layout : Layout) (d : Decimal) : String :=
  let digits := Nat.toDigits 10 d.digits
  let leading := (digits.length : Int) - 1 + d.exponent
  if layout.positional leading then
    if 0 ≤ d.exponent then
      String.ofList digits ++ zeros d.exponent.toNat ++ (if layout.pointZero then ".0" else "")
    else if 0 ≤ leading then
      let whole := leading.toNat + 1
      String.ofList (digits.take whole) ++ "." ++ String.ofList (digits.drop whole)
    else "0." ++ zeros (-leading - 1).toNat ++ String.ofList digits
  else
    let fraction := String.ofList (digits.drop 1)
    String.ofList (digits.take 1) ++ (if fraction.isEmpty then "" else "." ++ fraction) ++ "e"
      ++ (if layout.plusSign && 0 ≤ leading then "+" else "") ++ toString leading

def double (layout : Layout) (x : Double) : String :=
  let sign := if x.isNegative then "-" else ""
  if x.isNaN then "NaN"
  else if !x.isFinite then sign ++ "inf"
  else if x.isZero then sign ++ (if layout.pointZero then "0.0" else "0")
  else sign ++ layout.decimal (x.shortest layout.tie)

end Layout

end Telemetry
