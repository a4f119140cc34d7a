import Telemetry.Proofs.Relation.Contribution

/-!
# Histories and merged series

A relation came about in one of three ways: it is fresh over a measurement, or a call was made on
it, or another relation, with a history of its own, was merged into it. Nothing else makes or
changes relations, so the reachable relations are those with a history.

A target brings its leaves, another relation brings its primary series, if different, and its merged
series; either way they are gathered over the primary series and nothing else of the relation
changes. Every reachable relation is tidy: it reads its measurement's series, and its merged series
are leaves, apart from each other and from the primary series.
-/

namespace Telemetry

inductive History where
  | fresh (m : Measurement)
  | call (before : History) (call : Call)
  | merge (before other : History)

def History.relation : History → Relation
  | fresh m => Relation.new m
  | call before c => before.relation.apply c
  | merge before other => before.relation.merged other.relation

/-- The measurement that a history started with. -/
def History.measurement : History → Measurement
  | fresh m => m
  | call before _ => before.measurement
  | merge before _ => before.measurement

def Relation.Reachable (r : Relation) : Prop :=
  ∃ history : History, history.relation = r

namespace Relation

theorem Reachable.apply {r : Relation} (h : r.Reachable) (call : Call) :
    (r.apply call).Reachable := by
  obtain ⟨history, rfl⟩ := h
  exact ⟨.call history call, rfl⟩

theorem Reachable.run {r : Relation} (h : r.Reachable) (calls : List Call) :
    (r.run calls).Reachable := by
  induction calls generalizing r with
  | nil => exact h
  | cons call rest ih => exact ih (h.apply call)

/-- A property of fresh relations that calls and merges keep holds of every reachable relation. -/
theorem Reachable.induction {P : Relation → Prop} (fresh : ∀ m, P (new m))
    (call : ∀ r c, P r → P (r.apply c)) (merge : ∀ r o, P r → P o → P (r.merged o))
    {r : Relation} (h : r.Reachable) : P r := by
  obtain ⟨history, rfl⟩ := h
  induction history with
  | fresh m => exact fresh m
  | call before c ih => exact call _ c ih
  | merge before other ih ihOther => exact merge _ _ ih ihOther

open Series (gather gatherAll)

theorem foldl_addTarget (r : Relation) (targets : List Series) :
    targets.foldl addTarget r =
      { r with targets := r.series.gatherAll r.targets (targets.flatMap Series.leaves) } := by
  induction targets generalizing r with
  | nil => rfl
  | cons target rest ih =>
    rw [List.foldl_cons, addTarget_eq, ih, List.flatMap_cons, Series.gatherAll_append]

/-- All of a merge but the merged series. -/
def joined (r o : Relation) : Relation :=
  { r with
    clauses := r.clauses ++ o.clauses
    grouping :=
      { terms := r.grouping.terms ++ o.grouping.terms
        bucket := o.grouping.bucket.or r.grouping.bucket
        fill := o.grouping.fill.or r.grouping.fill }
    fields := if o.fields.isEmpty then r.fields else o.fields
    window := o.window.or r.window
    limit := o.limit.or r.limit
    offset := o.offset.or r.offset
    calculation := o.calculation.or r.calculation
    rejection := r.rejection.or o.rejection }

/-- The primary series of another relation, unless it is read already. -/
def other (own : Series) (series : Series) : List Series :=
  if series.equal own then [] else series.leaves

/-- The leaves that another relation brings. -/
def incoming (own : Series) (o : Relation) : List Series :=
  other own o.series ++ o.targets.flatMap Series.leaves

theorem merged_eq (r o : Relation) :
    r.merged o =
      { joined r o with targets := r.series.gatherAll r.targets (incoming r.series o) } := by
  have opened : r.merged o = o.targets.foldl addTarget
      (if o.series.equal r.series then joined r o else (joined r o).addTarget o.series) := rfl
  rw [opened, foldl_addTarget, incoming, other]
  split
  · rfl
  · rw [addTarget_eq, Series.gatherAll_append]
    rfl

/-- The invariant of reachable relations. -/
structure Tidy (r : Relation) : Prop where
  own : r.series = r.measurement.series
  leaves : ∀ t ∈ r.targets, t.isList = false
  fresh : ∀ t ∈ r.targets, t.equal r.series = false
  apart : r.targets.Pairwise fun s t => t.equal s = false

theorem tidy_new (m : Measurement) : (new m).Tidy :=
  ⟨rfl, by simp [new], by simp [new], List.Pairwise.nil⟩

theorem Tidy.gather {r : Relation} (h : r.Tidy) {leaf : Series} (hleaf : leaf.isList = false) :
    { r with targets := r.series.gather r.targets leaf }.Tidy := by
  by_cases known : r.series.covers r.targets leaf = true
  · rw [Series.gather_of_covers known]
    exact h
  · have unknown : r.series.covers r.targets leaf = false := by simpa using known
    rw [Series.gather_of_not_covers unknown]
    obtain ⟨ownFresh, targetsFresh⟩ := Bool.or_eq_false_iff.mp unknown
    have mem {t : Series} (ht : t ∈ r.targets ++ [leaf]) : t ∈ r.targets ∨ t = leaf := by
      simpa using ht
    refine ⟨h.own, ?_, ?_, ?_⟩
    · intro t ht
      rcases mem ht with ht | rfl
      · exact h.leaves t ht
      · exact hleaf
    · intro t ht
      rcases mem ht with ht | rfl
      · exact h.fresh t ht
      · exact ownFresh
    · rw [List.pairwise_append]
      refine ⟨h.apart, List.pairwise_singleton _ leaf, ?_⟩
      intro t ht s hs
      rw [List.mem_singleton.mp hs]
      exact by simpa using List.any_eq_false.mp targetsFresh t ht

theorem Tidy.gatherAll {r : Relation} (h : r.Tidy) {leaves : List Series}
    (hleaves : ∀ leaf ∈ leaves, leaf.isList = false) :
    { r with targets := r.series.gatherAll r.targets leaves }.Tidy := by
  induction leaves generalizing r with
  | nil => exact h
  | cons leaf rest ih =>
    exact ih (h.gather (hleaves leaf List.mem_cons_self))
      fun s hs => hleaves s (List.mem_cons_of_mem _ hs)

theorem not_list_of_mem_brought {c : Call} {leaf : Series} (h : leaf ∈ brought c) :
    leaf.isList = false := by
  cases c with
  | merge series => exact Series.not_list_of_mem_leaves series h
  | _ => cases h

/-- Two relations that read and merge the same series for the same measurement. -/
structure SameSeries (r s : Relation) : Prop where
  measurement : s.measurement = r.measurement
  series : s.series = r.series
  targets : s.targets = r.targets

/-- A call leaves the series alone but for the leaves that it brings. -/
theorem sameSeries_apply (r : Relation) (c : Call) :
    { r with targets := r.series.gatherAll r.targets (brought c) }.SameSeries (r.apply c) := by
  rw [apply_eq, receive, Call.contribution_leaves]
  exact ⟨rfl, rfl, rfl⟩

theorem Tidy.congr {r s : Relation} (h : r.Tidy) (same : r.SameSeries s) : s.Tidy := by
  obtain ⟨measurement, series, targets⟩ := same
  refine ⟨?_, ?_, ?_, ?_⟩
  · rw [series, measurement]
    exact h.own
  · rw [targets]
    exact h.leaves
  · rw [targets, series]
    exact h.fresh
  · rw [targets]
    exact h.apart

theorem Tidy.apply {r : Relation} (h : r.Tidy) (c : Call) : (r.apply c).Tidy :=
  (h.gatherAll fun _ => not_list_of_mem_brought).congr (sameSeries_apply r c)

theorem not_list_of_mem_incoming {own : Series} {o : Relation} {leaf : Series}
    (h : leaf ∈ incoming own o) : leaf.isList = false := by
  rcases List.mem_append.mp h with h | h
  · unfold other at h
    split at h
    · cases h
    · exact Series.not_list_of_mem_leaves o.series h
  · obtain ⟨target, _, h⟩ := List.mem_flatMap.mp h
    exact Series.not_list_of_mem_leaves target h

theorem Tidy.merged {r : Relation} (h : r.Tidy) (o : Relation) : (r.merged o).Tidy := by
  rw [merged_eq]
  exact (h.gatherAll fun _ => not_list_of_mem_incoming).congr ⟨rfl, rfl, rfl⟩

theorem Reachable.tidy {r : Relation} (h : r.Reachable) : r.Tidy :=
  h.induction tidy_new (fun _ c tidy => tidy.apply c) fun _ o tidy _ => tidy.merged o

/-- A tidy relation's merged series, brought to a fresh relation, are gathered as they are. -/
theorem Tidy.gatherAll_targets {r : Relation} (h : r.Tidy) :
    r.series.gatherAll [] r.targets = r.targets := by
  refine Series.gatherAll_of_apart (fun t ht => ?_) h.apart
  simp [Series.covers, h.fresh t ht]

/-- Of a tidy relation come its primary series and its merged series as they stand. -/
theorem incoming_of_tidy {o : Relation} (own : Series) (tidy : o.Tidy) :
    incoming own o = other own o.series ++ o.targets := by
  rw [incoming, Series.flatMap_leaves tidy.leaves]

/-- A tidy relation brings itself nothing. -/
theorem Tidy.targets_merged_self {r : Relation} (h : r.Tidy) : (r.merged r).targets = r.targets := by
  have brings : incoming r.series r = r.targets := by
    rw [incoming_of_tidy _ h, other, if_pos (Series.equal_refl r.series)]
    rfl
  rw [merged_eq, brings]
  refine Series.gatherAll_of_covered fun t mem => ?_
  exact Series.covers_iff.mpr (Or.inr ⟨t, mem, Series.equal_refl t⟩)

theorem joins_merge (r : Relation) (series : Series) :
    r.series.Joins r.targets series.leaves (r.apply (.merge series)).targets := by
  change r.series.Joins r.targets series.leaves (r.addTarget series).targets
  rw [addTarget_eq]
  exact Series.joins_gatherAll r.series r.targets series.leaves

theorem joins_merged (r : Relation) {o : Relation} (tidy : o.Tidy) :
    r.series.Joins r.targets (other r.series o.series ++ o.targets) (r.merged o).targets := by
  rw [merged_eq, ← incoming_of_tidy _ tidy]
  exact Series.joins_gatherAll r.series r.targets (incoming r.series o)

end Relation

namespace History

theorem tidy_relation (history : History) : history.relation.Tidy :=
  Relation.Reachable.tidy ⟨history, rfl⟩

theorem measurement_relation (history : History) :
    history.relation.measurement = history.measurement := by
  induction history with
  | fresh m => rfl
  | call before c ih => exact (Relation.sameSeries_apply before.relation c).measurement.trans ih
  | merge before other ih _ =>
    rw [relation, Relation.merged_eq]
    exact ih

/-- However a relation came about, it reads the series of the measurement it started with, and its
merged series are leaves, apart from each other and from that series. Merging a series or a relation
into it loses no leaf, keeps the merged series in their places and lets new ones follow in the order
of first occurrence; merging a relation into itself adds none. -/
theorem targets_joined (history : History) :
    let r := history.relation
    r.measurement = history.measurement ∧ r.Tidy ∧
    (∀ series : Series, r.series.Joins r.targets series.leaves (r.apply (.merge series)).targets) ∧
    (∀ other : History, let o := other.relation
      r.series.Joins r.targets
        ((if o.series.equal r.series then [] else o.series.leaves) ++ o.targets)
        (r.merged o).targets) ∧
    (r.merged r).targets = r.targets := by
  intro r
  exact ⟨history.measurement_relation, history.tidy_relation, r.joins_merge,
    fun other => r.joins_merged other.tidy_relation, history.tidy_relation.targets_merged_self⟩

end History

end Telemetry
