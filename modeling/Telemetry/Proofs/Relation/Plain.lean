import Telemetry.Proofs.Condition.Clauses
import Telemetry.Proofs.Condition.WellFormed
import Telemetry.Proofs.Relation.Targets

/-!
# Plain relations

A relation is plain when what it writes without quotes is made of identifiers, alphanumeric lengths
of time and whole numbers, what it writes within quotes closes, and nothing in it is raw text.
String values are arbitrary. Plain calls on a plain relation, and merges of plain relations, make a
plain one.
-/

namespace Telemetry

open Text (isIdentifier)

def Fill.isPlain : Fill → Bool
  | .float _ => false
  | _ => true

def Argument.isPlain : Argument → Bool
  | field name => isIdentifier name
  | integer _ => true
  | float _ => false

def Calculation.isPlain (c : Calculation) : Bool :=
  isIdentifier c.function.name && c.args.all Argument.isPlain

def Criterion.isPlain : Criterion → Bool
  | scalar value => value.isPlain
  | list values => values.all Scalar.isPlain
  | range low high => low.isPlain && high.isPlain
  | pattern p => p.closes

def Call.isPlain : Call → Bool
  | select fields => fields.all isIdentifier
  | filters _ pairs => pairs.all fun pair => isIdentifier pair.1 && pair.2.isPlain
  | raw _ => false
  | group terms => terms.all isIdentifier
  | time interval => interval.isPlain
  | timeWithFill interval filler => interval.isPlain && filler.isPlain
  | fill filler => filler.isPlain
  | within window => window.isPlain
  | limit _ | offset _ => true
  | merge series => series.isPlain
  | calculate calculation => calculation.isPlain

/-- Plain calls from plain series on. -/
def History.isPlain : History → Bool
  | fresh m => m.series.isPlain
  | call before c => before.isPlain && c.isPlain
  | merge before other => before.isPlain && other.isPlain

/-- A clause of a plain criterion is plain. -/
theorem Criterion.plain_of_clause {field : String} {negated : Bool} {criterion : Criterion}
    {clause : Clause} (identifier : isIdentifier field = true) (h : criterion.isPlain = true)
    (accepted : criterion.clause field negated = .ok clause) : clause.isPlain = true := by
  have single {term : Condition} (plain : term.isPlain = true) :
      (Clause.single term).isPlain = true := by
    simp [Clause.isPlain, Clause.single, plain]
  have compared {value : Scalar} (plain : value.isPlain = true) :
      (comparison field negated value).isPlain = true := by
    cases negated <;> simp [comparison, Condition.isPlain, identifier, plain]
  unfold Criterion.clause at accepted
  split at accepted
  · cases accepted
  · cases criterion with
    | scalar value =>
      obtain ⟨-, accepted⟩ := ok_of_checked accepted
      rw [← Except.ok.inj accepted]
      exact single (compared h)
    | pattern p =>
      rw [← Except.ok.inj accepted]
      refine single ?_
      cases negated <;> simpa [Condition.isPlain, identifier, Criterion.isPlain] using h
    | range low high =>
      obtain ⟨-, accepted⟩ := ok_of_checked accepted
      rw [← Except.ok.inj accepted]
      refine single ?_
      cases negated <;> simpa [Condition.isPlain, identifier, Criterion.isPlain] using h
    | list values =>
      cases values with
      | nil => cases accepted
      | cons value rest =>
        obtain ⟨-, accepted⟩ := ok_of_checked accepted
        rw [← Except.ok.inj accepted, Clause.isPlain, List.all_map, List.all_eq_true]
        intro operand mem
        exact compared (List.all_eq_true.mp h operand mem)

namespace Relation

structure Plain (r : Relation) : Prop where
  series : r.series.isPlain = true
  fields : ∀ field ∈ r.fields, isIdentifier field = true
  clauses : ∀ clause ∈ r.clauses, clause.isPlain = true
  terms : ∀ term ∈ r.grouping.terms, isIdentifier term = true
  bucket : ∀ interval ∈ r.grouping.bucket, interval.isPlain = true
  fill : ∀ fill ∈ r.grouping.fill, fill.isPlain = true
  window : ∀ window ∈ r.window, window.isPlain = true
  targets : ∀ target ∈ r.targets, target.isPlain = true
  calculation : ∀ calculation ∈ r.calculation, calculation.isPlain = true

variable {r o : Relation}

theorem plain_new {m : Measurement} (h : m.series.isPlain = true) : (new m).Plain := by
  constructor <;> simp [new, h]

theorem Plain.reject (h : r.Plain) (rejection : Rejection) : (r.reject rejection).Plain :=
  { h with }

theorem Plain.filter (h : r.Plain) {negated : Bool} {pair : String × Criterion}
    (identifier : isIdentifier pair.1 = true) (criterion : pair.2.isPlain = true) :
    (r.filter negated pair).Plain := by
  unfold Relation.filter
  cases accepted : pair.2.clause pair.1 negated with
  | error rejection => exact h.reject rejection
  | ok clause =>
    have plain := Criterion.plain_of_clause identifier criterion accepted
    refine { h with clauses := ?_ }
    intro c mem
    rcases List.mem_append.mp mem with mem | mem
    · exact h.clauses c mem
    · rw [List.mem_singleton.mp mem]
      exact plain

theorem Plain.filters (h : r.Plain) {negated : Bool} {pairs : List (String × Criterion)}
    (plain : ∀ pair ∈ pairs, isIdentifier pair.1 = true ∧ pair.2.isPlain = true) :
    (pairs.foldl (Relation.filter · negated ·) r).Plain := by
  induction pairs generalizing r with
  | nil => exact h
  | cons pair rest ih =>
    obtain ⟨identifier, criterion⟩ := plain pair List.mem_cons_self
    exact ih (h.filter identifier criterion) fun other mem =>
      plain other (List.mem_cons_of_mem _ mem)

theorem Plain.bucketed (h : r.Plain) {interval : Interval} (plain : interval.isPlain = true) :
    (r.bucket interval).Plain := by
  refine { h with bucket := ?_ }
  intro i mem
  cases mem
  exact plain

theorem Plain.filled (h : r.Plain) {fill : Fill} (plain : fill.isPlain = true) :
    (r.fill fill).Plain := by
  have set : { r with grouping := { r.grouping with fill := some fill } }.Plain := by
    refine { h with fill := ?_ }
    intro f mem
    cases mem
    exact plain
  cases fill with
  | float x => cases plain
  | _ => exact set

/-- What is gathered into a plain relation from plain leaves is plain. -/
theorem Plain.gathered (h : r.Plain) {leaves : List Series}
    (plain : ∀ leaf ∈ leaves, leaf.isPlain = true) :
    ∀ target ∈ r.series.gatherAll r.targets leaves, target.isPlain = true := by
  intro target mem
  rcases Series.mem_gatherAll mem with mem | mem
  · exact h.targets target mem
  · exact plain target mem

theorem Plain.apply (h : r.Plain) {c : Call} (plain : c.isPlain = true) : (r.apply c).Plain := by
  cases c with
  | select fields =>
    refine { h with fields := ?_ }
    intro field mem
    rcases List.mem_append.mp mem with mem | mem
    · exact h.fields field mem
    · exact List.all_eq_true.mp plain field mem
  | filters negated pairs =>
    refine h.filters fun pair mem => ?_
    exact Bool.and_eq_true_iff.mp (List.all_eq_true.mp plain pair mem)
  | raw text => cases plain
  | group terms =>
    refine { h with terms := ?_ }
    intro term mem
    rcases List.mem_append.mp mem with mem | mem
    · exact h.terms term mem
    · exact List.all_eq_true.mp plain term mem
  | time interval => exact h.bucketed plain
  | timeWithFill interval fill =>
    obtain ⟨intervalPlain, fillPlain⟩ := Bool.and_eq_true_iff.mp plain
    exact (h.bucketed intervalPlain).filled fillPlain
  | fill f => exact h.filled plain
  | within window =>
    refine { h with window := ?_ }
    intro w mem
    cases mem
    exact plain
  | limit n => exact { h with }
  | offset n => exact { h with }
  | merge series =>
    change (r.addTarget series).Plain
    rw [addTarget_eq]
    exact { h with targets := h.gathered fun leaf mem => Series.plain_of_mem_leaves plain mem }
  | calculate calculation =>
    refine { h with calculation := ?_ }
    intro c mem
    cases mem
    exact plain

theorem Plain.merged (h : r.Plain) (ho : o.Plain) : (r.merged o).Plain := by
  have either {α : Type} {P : α → Prop} {first second : Option α} (hf : ∀ a ∈ first, P a)
      (hs : ∀ a ∈ second, P a) : ∀ a ∈ first.or second, P a := by
    cases first with
    | none => exact hs
    | some a => exact hf
  have both {α : Type} {P : α → Prop} {first second : List α} (hf : ∀ a ∈ first, P a)
      (hs : ∀ a ∈ second, P a) : ∀ a ∈ first ++ second, P a := by
    intro a mem
    rcases List.mem_append.mp mem with mem | mem
    · exact hf a mem
    · exact hs a mem
  have incomingPlain : ∀ leaf ∈ incoming r.series o, leaf.isPlain = true := by
    refine both ?_ ?_
    · intro leaf mem
      unfold other at mem
      split at mem
      · cases mem
      · exact Series.plain_of_mem_leaves ho.series mem
    · intro leaf mem
      obtain ⟨target, known, mem⟩ := List.mem_flatMap.mp mem
      exact Series.plain_of_mem_leaves (ho.targets target known) mem
  rw [merged_eq]
  refine ⟨h.series, ?_, both h.clauses ho.clauses, both h.terms ho.terms,
    either ho.bucket h.bucket, either ho.fill h.fill, either ho.window h.window,
    h.gathered incomingPlain, either ho.calculation h.calculation⟩
  change ∀ field ∈ (if o.fields.isEmpty then r.fields else o.fields), _
  split
  · exact h.fields
  · exact ho.fields

end Relation

/-- The relations of plain histories are plain. -/
theorem History.plain_relation {history : History} (h : history.isPlain = true) :
    history.relation.Plain := by
  induction history with
  | fresh m => exact Relation.plain_new h
  | call before c ih =>
    obtain ⟨plain, last⟩ := Bool.and_eq_true_iff.mp h
    exact (ih plain).apply last
  | merge before other ih ihOther =>
    obtain ⟨plain, plainOther⟩ := Bool.and_eq_true_iff.mp h
    exact (ih plain).merged (ihOther plainOther)

end Telemetry
