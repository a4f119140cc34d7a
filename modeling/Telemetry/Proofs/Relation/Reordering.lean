import Mathlib.Logic.Relation
import Telemetry.Proofs.Relation.Contribution

/-!
# Calls in another order

Every call touches some parts of a relation: which ones is told by the call alone, and a call that
may be rejected touches the rejection in place of what it would have set. What a call brings to the
parts that it does not touch is nothing, so two calls that touch no part in common can be made in
either order, and a sequence of calls can be rearranged by exchanging such neighbours.
-/

namespace Telemetry

inductive Part where
  | fields
  | clauses
  | rejection
  | terms
  | bucket
  | fill
  | window
  | limit
  | offset
  | targets
  | calculation
deriving DecidableEq, Repr

def Part.ofVerdict : Except Rejection Clause → Part
  | .ok _ => clauses
  | .error _ => rejection

/-- What a fill touches. -/
def Fill.part (f : Fill) : Part :=
  if f.rejection?.isSome then .rejection else .fill

/-- The parts of a relation that a call touches. -/
def Call.parts : Call → List Part
  | .select _ => [.fields]
  | .filters negated pairs => pairs.map fun pair => .ofVerdict (pair.2.clause pair.1 negated)
  | .raw text => [.ofVerdict (Criterion.rawClause text)]
  | .group _ => [.terms]
  | .time _ => [.bucket]
  | .timeWithFill _ f => [.bucket, f.part]
  | .fill f => [f.part]
  | .within _ => [.window]
  | .limit _ => [.limit]
  | .offset _ => [.offset]
  | .merge _ => [.targets]
  | .calculate _ => [.calculation]

/-- Nothing is brought to the part. -/
def Contribution.Spares (k : Contribution) : Part → Prop
  | .fields => k.fields = []
  | .clauses => k.clauses = []
  | .rejection => k.rejection = none
  | .terms => k.terms = []
  | .bucket => k.bucket = none
  | .fill => k.fill = none
  | .window => k.window = none
  | .limit => k.limit = none
  | .offset => k.offset = none
  | .targets => k.leaves = []
  | .calculation => k.calculation = none

theorem filterMap_verdicts {verdicts : List (Except Rejection Clause)}
    (h : Part.clauses ∉ verdicts.map Part.ofVerdict) : verdicts.filterMap Except.toOption = [] := by
  refine List.filterMap_eq_nil_iff.mpr fun verdict mem => ?_
  cases verdict with
  | ok clause => exact absurd (List.mem_map_of_mem mem) h
  | error rejection => rfl

theorem findSome?_verdicts {verdicts : List (Except Rejection Clause)}
    (h : Part.rejection ∉ verdicts.map Part.ofVerdict) :
    verdicts.findSome? rejectionOf = none := by
  refine List.findSome?_eq_none_iff.mpr fun verdict mem => ?_
  cases verdict with
  | ok clause => rfl
  | error rejection => exact absurd (List.mem_map_of_mem mem) h

namespace Call

theorem clauses_eq_nil {c : Call} (h : .clauses ∉ c.parts) : c.clauses = [] := by
  cases c with
  | filters negated pairs =>
    refine filterMap_verdicts ?_
    rw [verdicts, List.map_map]
    exact h
  | raw text => exact filterMap_verdicts h
  | fill f => exact clauses_fill f
  | timeWithFill interval f => exact clauses_timeWithFill interval f
  | _ => rfl

theorem rejection?_eq_none {c : Call} (h : .rejection ∉ c.parts) : c.rejection? = none := by
  have accepted {f : Fill} (h : .rejection ∉ [f.part]) : f.rejection? = none := by
    cases hf : f.rejection? with
    | none => rfl
    | some rejection => simp [Fill.part, hf] at h
  cases c with
  | filters negated pairs =>
    refine findSome?_verdicts ?_
    rw [verdicts, List.map_map]
    exact h
  | raw text => exact findSome?_verdicts h
  | fill f =>
    rw [rejection?_fill]
    exact accepted h
  | timeWithFill interval f =>
    rw [rejection?_timeWithFill]
    exact accepted fun mem => h (List.mem_cons_of_mem _ mem)
  | _ => rfl

theorem fill_eq_none {c : Call} (h : .fill ∉ c.parts) : c.contribution.fill = none := by
  have refused {f : Fill} (h : .fill ∉ [f.part]) : f.accepted? = none := by
    cases hf : f.rejection? with
    | none => simp [Fill.part, hf] at h
    | some rejection => simp [Fill.accepted?, hf]
  cases c with
  | fill f => exact refused h
  | timeWithFill interval f => exact refused fun mem => h (List.mem_cons_of_mem _ mem)
  | _ => rfl

theorem spares_of_not_mem {c : Call} {part : Part} (h : part ∉ c.parts) :
    c.contribution.Spares part := by
  cases part with
  | clauses => exact (contribution_clauses c).trans (clauses_eq_nil h)
  | rejection => exact (contribution_rejection c).trans (rejection?_eq_none h)
  | fill => exact fill_eq_none h
  | _ => cases c <;> first | rfl | exact absurd List.mem_cons_self h

end Call

namespace Relation

/-- Contributions to different parts can be received in either order. -/
theorem receive_comm {k l : Contribution} (apart : ∀ part, k.Spares part ∨ l.Spares part)
    (r : Relation) : (r.receive k).receive l = (r.receive l).receive k := by
  have appended {α : Type} {xs ys zs : List α} (h : ys = [] ∨ zs = []) :
      xs ++ ys ++ zs = xs ++ zs ++ ys := by
    rcases h with rfl | rfl <;> simp
  have replaced {α : Type} {a b c : Option α} (h : b = none ∨ c = none) :
      c.or (b.or a) = b.or (c.or a) := by
    rcases h with rfl | rfl <;> simp
  have kept {α : Type} {a b c : Option α} (h : b = none ∨ c = none) :
      (a.or b).or c = (a.or c).or b := by
    rcases h with rfl | rfl <;> simp
  have gathered : r.series.gatherAll (r.series.gatherAll r.targets k.leaves) l.leaves =
      r.series.gatherAll (r.series.gatherAll r.targets l.leaves) k.leaves := by
    rcases apart .targets with none | none
    · rw [show k.leaves = [] from none]
      rfl
    · rw [show l.leaves = [] from none]
      rfl
  simp only [receive, Relation.mk.injEq, Grouping.mk.injEq, true_and]
  exact ⟨appended (apart .fields), appended (apart .clauses),
    ⟨appended (apart .terms), replaced (apart .bucket), replaced (apart .fill)⟩,
    replaced (apart .window), replaced (apart .limit), replaced (apart .offset), gathered,
    replaced (apart .calculation), kept (apart .rejection)⟩

theorem apply_comm {a b : Call} (apart : ∀ part ∈ a.parts, part ∉ b.parts) (r : Relation) :
    (r.apply a).apply b = (r.apply b).apply a := by
  have spared (part : Part) : a.contribution.Spares part ∨ b.contribution.Spares part := by
    by_cases touched : part ∈ a.parts
    · exact Or.inr (Call.spares_of_not_mem (apart part touched))
    · exact Or.inl (Call.spares_of_not_mem touched)
  simp only [apply_eq]
  exact receive_comm spared r

end Relation

/-- Two neighbours that touch no part in common change places. -/
inductive Call.Exchanged : List Call → List Call → Prop where
  | swap (before : List Call) (a b : Call) (after : List Call)
      (apart : ∀ part ∈ a.parts, part ∉ b.parts) :
      Exchanged (before ++ a :: b :: after) (before ++ b :: a :: after)

namespace Relation

theorem run_eq_of_exchanged {xs ys : List Call} (h : Call.Exchanged xs ys) (r : Relation) :
    r.run xs = r.run ys := by
  obtain ⟨before, a, b, after, apart⟩ := h
  have pair (s : Relation) : s.run (a :: b :: after) = s.run (b :: a :: after) :=
    congrArg (run · after) (apply_comm apart s)
  rw [run_append, run_append]
  exact pair (r.run before)

/-- A sequence of calls can be rearranged by exchanging neighbours that touch no part in common. -/
theorem run_eq_of_rearranged {xs ys : List Call}
    (h : Relation.ReflTransGen Call.Exchanged xs ys) (r : Relation) :
    r.run xs = r.run ys ∧ (r.run xs).toSelect = (r.run ys).toSelect ∧
      (r.run xs).toDelete = (r.run ys).toDelete := by
  have same : r.run xs = r.run ys := by
    induction h with
    | refl => rfl
    | tail _ last ih => exact ih.trans (run_eq_of_exchanged last r)
  exact ⟨same, congrArg toSelect same, congrArg toDelete same⟩

/-- A filter of two pairs, one of them rejected, moves behind a fill and a limit, but not behind
another rejection. -/
theorem run_eq_of_rearranged_rejected :
    let mixed := Call.filters true [("host", .scalar (.string "a")), ("", .list [])]
    let filled := Call.timeWithFill (.unit .hour) (.integer 0)
    let refused := Call.timeWithFill (.unit .day) (.float .nan)
    let xs := [mixed, filled, .limit 5, refused]
    let ys := [filled, .limit 5, mixed, refused]
    Relation.ReflTransGen Call.Exchanged xs ys ∧
      (new (.new (.name "cpu"))).run xs = (new (.new (.name "cpu"))).run ys ∧
      ¬ ∀ part ∈ mixed.parts, part ∉ refused.parts := by
  intro mixed filled refused xs ys
  have past_fill : Call.Exchanged xs [filled, mixed, .limit 5, refused] :=
    .swap [] mixed filled [.limit 5, refused] (by decide)
  have past_limit : Call.Exchanged [filled, mixed, .limit 5, refused] ys :=
    .swap [filled] mixed (.limit 5) [refused] (by decide)
  have path : Relation.ReflTransGen Call.Exchanged xs ys :=
    (Relation.ReflTransGen.single past_fill).tail past_limit
  exact ⟨path, (run_eq_of_rearranged path _).1, by decide⟩

end Relation

end Telemetry
