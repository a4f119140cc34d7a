import Telemetry.Criterion

/-!
# Negated filters

A filter and its negation pass the same checks, so both are accepted or both are refused, for the
same reason. What they say of a row is told by a reading, in which equality and difference leave no
third, nor do likeness and unlikeness, and bounds are told by a strict order.

Then a row meets exactly one of a filter and its negation, also for a list, whose negation is
conjunctive. A range is the exception. Its negation asks for a value below the lower bound and above
the upper one, so no row meets it unless the bounds are in the wrong order, and a row on one of them
meets neither.
-/

namespace Telemetry

universe u v

/-- What the operators of conditions say of rows. A row need not have a value for a field. -/
structure Reading (Row : Type u) (Value : Type v) where
  equals : Row → String → Scalar → Prop
  differs : Row → String → Scalar → Prop
  like : Row → String → Pattern → Prop
  unlike : Row → String → Pattern → Prop
  raw : Row → String → Prop
  value : Row → String → Option Value
  operand : Scalar → Value
  below : Value → Value → Prop
  differs_iff : ∀ row field operand, differs row field operand ↔ ¬ equals row field operand
  unlike_iff : ∀ row field pattern, unlike row field pattern ↔ ¬ like row field pattern
  below_irrefl : ∀ a, ¬ below a a
  below_trans : ∀ a b c, below a b → below b c → below a c

/-- Rows of integers, with bounds read as numbers. -/
def Reading.integers : Reading (String → Int) Int where
  equals row field operand := operand = .integer (row field)
  differs row field operand := operand ≠ .integer (row field)
  like _ _ _ := False
  unlike _ _ _ := True
  raw _ _ := True
  value row field := some (row field)
  operand
    | .integer n => n
    | _ => 0
  below := (· < ·)
  differs_iff _ _ _ := Iff.rfl
  unlike_iff _ _ _ := not_false_iff.symm
  below_irrefl := Int.lt_irrefl
  below_trans _ _ _ := Int.lt_trans

variable {Row : Type u} {Value : Type v}

namespace Reading

/-- The value of a field is less than an operand. -/
def Less (reading : Reading Row Value) (row : Row) (field : String) (bound : Scalar) : Prop :=
  ∃ value, reading.value row field = some value ∧ reading.below value (reading.operand bound)

/-- The value of a field is greater than an operand. -/
def Greater (reading : Reading Row Value) (row : Row) (field : String) (bound : Scalar) : Prop :=
  ∃ value, reading.value row field = some value ∧ reading.below (reading.operand bound) value

end Reading

def Condition.Holds (reading : Reading Row Value) (row : Row) : Condition → Prop
  | equals field value => reading.equals row field value
  | differs field value => reading.differs row field value
  | inside field low high => reading.Greater row field low ∧ reading.Less row field high
  | outside field low high => reading.Less row field low ∧ reading.Greater row field high
  | like field pattern => reading.like row field pattern
  | unlike field pattern => reading.unlike row field pattern
  | raw text => reading.raw row text

def Clause.Holds (reading : Reading Row Value) (row : Row) (clause : Clause) : Prop :=
  match clause.join with
  | .all => ∀ term ∈ clause.terms, term.Holds reading row
  | .any => ∃ term ∈ clause.terms, term.Holds reading row

theorem Clause.holds_single {reading : Reading Row Value} {row : Row} {term : Condition} :
    (Clause.single term).Holds reading row ↔ term.Holds reading row :=
  List.forall_mem_singleton

namespace Reading

variable {reading : Reading Row Value} {row : Row} {field : String} {low high : Scalar}

/-- A value that is below one bound and above another puts the other below the one. -/
theorem below_of_outside (less : reading.Less row field low)
    (greater : reading.Greater row field high) :
    reading.below (reading.operand high) (reading.operand low) := by
  obtain ⟨value, has, underLow⟩ := less
  obtain ⟨same, hasSame, overHigh⟩ := greater
  obtain rfl : value = same := Option.some.inj (has.symm.trans hasSame)
  exact reading.below_trans _ _ _ overHigh underLow

theorem not_greater_of_less (less : reading.Less row field low) :
    ¬ reading.Greater row field low :=
  fun greater => reading.below_irrefl _ (below_of_outside less greater)

end Reading

namespace Criterion

/-- The checks that a filter passes. -/
def check (field : String) (criterion : Criterion) : Except Rejection Unit :=
  if Text.allBlank field then .error ⟨field, .emptyField⟩
  else match criterion with
    | scalar value => value.check field
    | pattern _ => .ok ()
    | range low high => checkBounds field low high
    | list [] => .error ⟨field, .emptyList⟩
    | list values => values.forM (Scalar.check field)

/-- The clause of a filter that has passed them. -/
def checkedClause (field : String) (negated : Bool) : Criterion → Clause
  | scalar value => .single (comparison field negated value)
  | pattern p => .single (if negated then .unlike field p else .like field p)
  | range low high =>
    .single (if negated then .outside field low high else .inside field low high)
  | list values => ⟨values.map (comparison field negated), if negated then .all else .any⟩

/-- Negation does not matter to the checks. -/
theorem clause_eq (field : String) (negated : Bool) (criterion : Criterion) :
    criterion.clause field negated =
      (criterion.check field).map fun _ => criterion.checkedClause field negated := by
  unfold clause check
  split
  · rfl
  · cases criterion with
    | scalar value => cases value.check field <;> rfl
    | pattern p => rfl
    | range low high => cases checkBounds field low high <;> rfl
    | list values =>
      cases values with
      | nil => rfl
      | cons first rest => cases (first :: rest).forM (Scalar.check field) <;> rfl

variable {reading : Reading Row Value} {row : Row} {field : String}

theorem holds_comparison_negated {value : Scalar} :
    (comparison field true value).Holds reading row ↔
      ¬ (comparison field false value).Holds reading row :=
  reading.differs_iff row field value

/-- A list is excluded when none of its values is met. -/
theorem holds_list_negated {values : List Scalar} :
    (checkedClause field true (list values)).Holds reading row ↔
      ¬ (checkedClause field false (list values)).Holds reading row := by
  have all : (checkedClause field true (list values)).Holds reading row ↔
      ∀ value ∈ values, (comparison field true value).Holds reading row :=
    List.forall_mem_map
  have any : (checkedClause field false (list values)).Holds reading row ↔
      ∃ value ∈ values, (comparison field false value).Holds reading row := by
    constructor
    · rintro ⟨term, made, holds⟩
      obtain ⟨value, mem, rfl⟩ := List.mem_map.mp made
      exact ⟨value, mem, holds⟩
    · rintro ⟨value, mem, holds⟩
      exact ⟨_, List.mem_map_of_mem mem, holds⟩
  rw [all, any]
  simp only [holds_comparison_negated, not_exists, not_and]

theorem holds_negated_iff {criterion : Criterion} (other : ∀ low high, criterion ≠ range low high) :
    (criterion.checkedClause field true).Holds reading row ↔
      ¬ (criterion.checkedClause field false).Holds reading row := by
  cases criterion with
  | scalar value =>
    rw [checkedClause, checkedClause, Clause.holds_single, Clause.holds_single]
    exact holds_comparison_negated
  | list values => exact holds_list_negated
  | range low high => exact absurd rfl (other low high)
  | pattern p =>
    rw [checkedClause, checkedClause, Clause.holds_single, Clause.holds_single]
    exact reading.unlike_iff row field p

theorem not_holds_range_and_negated {low high : Scalar} :
    ¬ ((checkedClause field false (range low high)).Holds reading row ∧
      (checkedClause field true (range low high)).Holds reading row) := by
  rw [checkedClause, checkedClause, Clause.holds_single, Clause.holds_single]
  rintro ⟨⟨greater, -⟩, less, -⟩
  exact Reading.not_greater_of_less less greater

theorem below_of_holds_range_negated {low high : Scalar}
    (h : (checkedClause field true (range low high)).Holds reading row) :
    reading.below (reading.operand high) (reading.operand low) := by
  rw [checkedClause, Clause.holds_single] at h
  exact Reading.below_of_outside h.1 h.2

/-- Bounds are strict on both sides of the range: a row on one of them is neither inside nor
outside. -/
theorem neither_on_bound {low high : Scalar}
    (on : reading.value row field = some (reading.operand low) ∨
      reading.value row field = some (reading.operand high))
    (ordered : ¬ reading.below (reading.operand high) (reading.operand low)) :
    ¬ (checkedClause field false (range low high)).Holds reading row ∧
      ¬ (checkedClause field true (range low high)).Holds reading row := by
  refine ⟨fun inside => ?_, fun outside => ordered (below_of_holds_range_negated outside)⟩
  rw [checkedClause, Clause.holds_single] at inside
  obtain ⟨⟨value, has, overLow⟩, other, hasOther, underHigh⟩ := inside
  rcases on with onLow | onHigh
  · rw [Option.some.inj (has.symm.trans onLow)] at overLow
    exact reading.below_irrefl _ overLow
  · rw [Option.some.inj (hasOther.symm.trans onHigh)] at underHigh
    exact reading.below_irrefl _ underHigh

/-- A filter and its negation are refused alike or both accepted. If they are, a row meets exactly
one of them, unless they ask for a range: then it does not meet both, and without an upper bound
below the lower one it does not meet the negation. -/
theorem negation_complements (field : String) (criterion : Criterion)
    (reading : Reading Row Value) :
    (∃ rejection, criterion.clause field false = .error rejection ∧
      criterion.clause field true = .error rejection) ∨
    ∃ plain negated, criterion.clause field false = .ok plain ∧
      criterion.clause field true = .ok negated ∧
      ((∀ low high, criterion ≠ range low high) → ∀ row,
        (plain.Holds reading row ∨ negated.Holds reading row) ∧
          ¬ (plain.Holds reading row ∧ negated.Holds reading row)) ∧
      ∀ low high, criterion = range low high → ∀ row,
        ¬ (plain.Holds reading row ∧ negated.Holds reading row) ∧
          (¬ reading.below (reading.operand high) (reading.operand low) →
            ¬ negated.Holds reading row) := by
  rw [clause_eq, clause_eq]
  cases checked : criterion.check field with
  | error rejection => exact Or.inl ⟨rejection, rfl, rfl⟩
  | ok _ =>
    refine Or.inr ⟨_, _, rfl, rfl, fun other row => ?_, ?_⟩
    · rw [holds_negated_iff other]
      exact ⟨Classical.em _, fun both => both.2 both.1⟩
    · rintro low high rfl row
      exact ⟨not_holds_range_and_negated,
        fun ordered negated => ordered (below_of_holds_range_negated negated)⟩

theorem negation_complements_integers :
    ∃ plain negated, (list [.integer 1, .integer 2]).clause "n" false = .ok plain ∧
      (list [.integer 1, .integer 2]).clause "n" true = .ok negated ∧
      ∀ row, (plain.Holds .integers row ∨ negated.Holds .integers row) ∧
        ¬ (plain.Holds .integers row ∧ negated.Holds .integers row) := by
  rcases negation_complements "n" (list [.integer 1, .integer 2]) .integers with
    ⟨_, refused, -⟩ | ⟨plain, negated, accepted, acceptedToo, exactlyOne, -⟩
  · cases refused
  · exact ⟨plain, negated, accepted, acceptedToo, exactlyOne (fun _ _ => nofun)⟩

end Criterion

end Telemetry
