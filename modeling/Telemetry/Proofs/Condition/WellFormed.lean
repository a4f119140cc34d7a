import Telemetry.Criterion
import Telemetry.Relation.Call

/-!
# Well-formed clauses

A clause is a raw text that is not blank, one term on a field, or several comparisons of one field:
equalities of which any may hold, or differences that must all hold. A field has a name, operands
are finite, and the bounds of a range are both numbers, both strings or both timestamps.

Whatever is accepted becomes a well-formed clause, and raw only where it was written so.
-/

namespace Telemetry

def Scalar.isFinite : Scalar → Bool
  | float x => x.isFinite
  | _ => true

/-- Kinds of which one may stand below the other. -/
inductive Kind.Comparable : Kind → Kind → Prop
  | numeric {low high : Kind} (lowNumeric : low.isNumeric = true)
      (highNumeric : high.isNumeric = true) : Comparable low high
  | string : Comparable .string .string
  | timestamp : Comparable .timestamp .timestamp

structure Scalar.Bounds (low high : Scalar) : Prop where
  finiteLow : low.isFinite = true
  finiteHigh : high.isFinite = true
  kinds : low.kind.Comparable high.kind

/-- A term on a field, other than raw text. -/
inductive Condition.IsOn (field : String) : Condition → Prop
  | equals {value : Scalar} (finite : value.isFinite = true) : IsOn field (.equals field value)
  | differs {value : Scalar} (finite : value.isFinite = true) : IsOn field (.differs field value)
  | inside {low high : Scalar} (bounds : low.Bounds high) : IsOn field (.inside field low high)
  | outside {low high : Scalar} (bounds : low.Bounds high) : IsOn field (.outside field low high)
  | like (p : Pattern) : IsOn field (.like field p)
  | unlike (p : Pattern) : IsOn field (.unlike field p)

/-- One term on a field, or several comparisons of it that are joined as their operator asks. -/
inductive Clause.IsOn (field : String) : Clause → Prop
  | one {term : Condition} {join : Join} (on : term.IsOn field) : IsOn field ⟨[term], join⟩
  | any {values : List Scalar} (several : 2 ≤ values.length)
      (finite : ∀ value ∈ values, value.isFinite = true) :
      IsOn field ⟨values.map (.equals field), .any⟩
  | all {values : List Scalar} (several : 2 ≤ values.length)
      (finite : ∀ value ∈ values, value.isFinite = true) :
      IsOn field ⟨values.map (.differs field), .all⟩

inductive Clause.WellFormed : Clause → Prop
  | raw {text : String} (visible : Text.allBlank text = false) : WellFormed (.single (.raw text))
  | on {field : String} {clause : Clause} (named : Text.allBlank field = false)
      (clause_on : clause.IsOn field) : WellFormed clause

theorem Scalar.check_eq_ok_iff {field : String} {value : Scalar} :
    value.check field = .ok () ↔ value.isFinite = true := by
  cases value with
  | float x =>
    rw [check, isFinite]
    split <;> simp_all
  | _ => simp [check, isFinite]

/-- A check that lets something pass has succeeded, and lets pass what follows it. -/
theorem ok_of_checked {check : Except Rejection Unit} {α : Type} {next : Except Rejection α}
    {made : α} (h : (do check; next) = Except.ok made) : check = .ok () ∧ next = .ok made := by
  cases check with
  | error rejection => cases h
  | ok checked => exact ⟨rfl, h⟩

theorem Scalar.finite_of_checked {field : String} {values : List Scalar}
    (h : values.forM (check field) = .ok ()) : ∀ value ∈ values, value.isFinite = true := by
  induction values with
  | nil => simp
  | cons first rest ih =>
    obtain ⟨checked, later⟩ := ok_of_checked h
    intro value mem
    rcases List.mem_cons.mp mem with rfl | mem
    · exact check_eq_ok_iff.mp checked
    · exact ih later value mem

theorem Kind.comparable_of_checked {low high : Kind}
    (unboolean : ¬ (low = .boolean ∨ high = .boolean))
    (h : low = high ∨ low.isNumeric = true ∧ high.isNumeric = true) : low.Comparable high := by
  rcases h with rfl | ⟨lowNumeric, highNumeric⟩
  · cases low with
    | integer | float => exact .numeric rfl rfl
    | string => exact .string
    | boolean => exact absurd (Or.inl rfl) unboolean
    | timestamp => exact .timestamp
  · exact .numeric lowNumeric highNumeric

namespace Criterion

theorem bounds_of_checked {field : String} {low high : Scalar}
    (h : checkBounds field low high = .ok ()) : low.Bounds high := by
  obtain ⟨lowChecked, h⟩ := ok_of_checked h
  obtain ⟨highChecked, h⟩ := ok_of_checked h
  refine ⟨Scalar.check_eq_ok_iff.mp lowChecked, Scalar.check_eq_ok_iff.mp highChecked, ?_⟩
  split at h
  · cases h
  · rename_i unboolean
    split at h
    · rename_i matched
      exact Kind.comparable_of_checked unboolean matched
    · cases h

variable {field text : String} {negated : Bool} {clause : Clause}

theorem comparison_isOn {value : Scalar} (finite : value.isFinite = true) :
    (comparison field negated value).IsOn field := by
  cases negated with
  | true => exact .differs finite
  | false => exact .equals finite

theorem isOn_of_values {values : List Scalar} (nonempty : values ≠ [])
    (finite : ∀ value ∈ values, value.isFinite = true) :
    Clause.IsOn field
      ⟨values.map (comparison field negated), if negated then .all else .any⟩ := by
  match values, nonempty with
  | [value], _ => exact .one (comparison_isOn (finite value List.mem_cons_self))
  | first :: second :: rest, _ =>
    have several : 2 ≤ (first :: second :: rest).length := by simp
    cases negated with
    | true => exact .all several finite
    | false => exact .any several finite

/-- An accepted filter has a field with a name, and its clause is on this field. -/
theorem isOn_of_clause {criterion : Criterion}
    (accepted : criterion.clause field negated = .ok clause) :
    Text.allBlank field = false ∧ clause.IsOn field := by
  unfold Criterion.clause at accepted
  split at accepted
  · cases accepted
  · rename_i unblank
    refine ⟨by simpa using unblank, ?_⟩
    cases criterion with
    | scalar value =>
      obtain ⟨checked, accepted⟩ := ok_of_checked accepted
      rw [← Except.ok.inj accepted]
      exact .one (comparison_isOn (Scalar.check_eq_ok_iff.mp checked))
    | pattern p =>
      rw [← Except.ok.inj accepted]
      cases negated with
      | true => exact .one (.unlike p)
      | false => exact .one (.like p)
    | range low high =>
      obtain ⟨checked, accepted⟩ := ok_of_checked accepted
      rw [← Except.ok.inj accepted]
      cases negated with
      | true => exact .one (.outside (bounds_of_checked checked))
      | false => exact .one (.inside (bounds_of_checked checked))
    | list values =>
      cases values with
      | nil => cases accepted
      | cons first rest =>
        obtain ⟨checked, accepted⟩ := ok_of_checked accepted
        rw [← Except.ok.inj accepted]
        exact isOn_of_values (List.cons_ne_nil first rest) (Scalar.finite_of_checked checked)

theorem rawClause_eq_ok_iff :
    rawClause text = .ok clause ↔ Text.allBlank text = false ∧ clause = .single (.raw text) := by
  unfold rawClause
  split
  · rename_i blank
    simp [blank]
  · rename_i visible
    simp [visible, eq_comm]

end Criterion

/-- What is on a field is not raw. -/
theorem Clause.IsOn.ne_raw {field text : String} {clause : Clause} (h : clause.IsOn field) :
    clause ≠ .single (.raw text) := by
  rintro rfl
  generalize same : Clause.single (.raw text) = clause at h
  cases h with
  | one on =>
    cases same
    cases on
  | any several _ | all several _ =>
    have single : 1 = List.length _ := congrArg (·.terms.length) same
    rw [List.length_map] at single
    omega

end Telemetry
