import Telemetry.Condition
import Telemetry.Text.Classes

/-!
# Criteria

A criterion is what a filter asks of a field: a value, one value of a list, a value between two
bounds, or a match of a pattern. A filter holds either the criterion or its negation, and becomes
one clause. A list is met by any of its values, so its negation excludes all of them.

Operands are finite. Bounds are both numbers, both strings or both timestamps. A filter, a raw
condition or a fill that is refused leaves a rejection. A raw condition has no field; its rejection
names `<raw>`, that of a fill names `fill`.
-/

namespace Telemetry

inductive Reason where
  | emptyField
  | emptyText
  | emptyList
  | notFinite (x : Double)
  | booleanBounds
  | mismatchedBounds (low high : Kind)
deriving DecidableEq, Repr

def Reason.text : Reason → String
  | emptyField => "field name is empty"
  | emptyText => "condition text is empty"
  | emptyList => "empty list"
  | notFinite x => "non-finite float " ++ Layout.argument.double x
  | booleanBounds => "boolean range bounds"
  | mismatchedBounds low high =>
    "mismatched range bounds (" ++ low.name ++ " .. " ++ high.name ++ ")"

structure Rejection where
  field : String
  reason : Reason
deriving DecidableEq, Repr

def Rejection.message (r : Rejection) : String :=
  "Invalid predicate value for '" ++ r.field ++ "': " ++ r.reason.text

inductive Criterion where
  | scalar (value : Scalar)
  | list (values : List Scalar)
  | range (low high : Scalar)
  | pattern (pattern : Pattern)
deriving DecidableEq

def Scalar.check (field : String) : Scalar → Except Rejection Unit
  | float x => if x.isFinite then .ok () else .error ⟨field, .notFinite x⟩
  | _ => .ok ()

def Kind.isNumeric : Kind → Bool
  | integer | float => true
  | _ => false

namespace Criterion

def comparison (field : String) (negated : Bool) (value : Scalar) : Condition :=
  if negated then .differs field value else .equals field value

def checkBounds (field : String) (low high : Scalar) : Except Rejection Unit := do
  low.check field
  high.check field
  if low.kind = .boolean ∨ high.kind = .boolean then .error ⟨field, .booleanBounds⟩
  else if low.kind = high.kind ∨ low.kind.isNumeric ∧ high.kind.isNumeric then .ok ()
  else .error ⟨field, .mismatchedBounds low.kind high.kind⟩

/-- The clause of a filter on `field`, or why there is none. -/
def clause (field : String) (negated : Bool) (criterion : Criterion) : Except Rejection Clause := do
  if Text.allBlank field then .error ⟨field, .emptyField⟩
  else match criterion with
    | scalar value =>
      value.check field
      .ok (.single (comparison field negated value))
    | pattern p => .ok (.single (if negated then .unlike field p else .like field p))
    | range low high =>
      checkBounds field low high
      .ok (.single (if negated then .outside field low high else .inside field low high))
    | list [] => .error ⟨field, .emptyList⟩
    | list values =>
      values.forM (Scalar.check field)
      .ok ⟨values.map (comparison field negated), if negated then .all else .any⟩

/-- Text taken as a condition of its own. -/
def rawClause (text : String) : Except Rejection Clause :=
  if Text.allBlank text then .error ⟨"<raw>", .emptyText⟩ else .ok (.single (.raw text))

def equalValues : List Scalar → List Scalar → Bool
  | [], [] => true
  | a :: as, b :: bs => a.equal b && equalValues as bs
  | _, _ => false

def equal : Criterion → Criterion → Bool
  | scalar a, scalar b => a.equal b
  | list as, list bs => equalValues as bs
  | range low high, range low' high' => low.equal low' && high.equal high'
  | pattern p, pattern q => p = q
  | _, _ => false

end Criterion

end Telemetry
