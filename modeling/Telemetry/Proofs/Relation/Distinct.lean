import Telemetry.Proofs.Relation.Targets
import Telemetry.Proofs.Series.Normal

/-!
# What a relation reads

A relation reads its primary series and its merged series. A leaf that joins them is left out only
where one of its normal form is read already, so in normal form a relation reads its primary series
and every leaf that ever came to it, each of them once.
-/

namespace Telemetry

namespace Series

variable {own leaf : Series} {targets : List Series}

theorem covers_iff_normal :
    own.covers targets leaf = true ↔ leaf.normal ∈ (own :: targets).map normal := by
  rw [covers_iff, equal_iff_normal, List.map_cons, List.mem_cons, List.mem_map]
  refine or_congr_right (exists_congr fun t => and_congr_right fun _ => ?_)
  rw [equal_iff_normal]
  exact eq_comm

/-- A leaf that joins is read, and no other series is lost or added. -/
theorem mem_normal_gather (own : Series) (targets : List Series) (leaf n : Series) :
    n ∈ (own :: own.gather targets leaf).map normal ↔
      n ∈ (own :: targets).map normal ∨ n = leaf.normal := by
  by_cases known : own.covers targets leaf = true
  · rw [gather_of_covers known]
    constructor
    · exact Or.inl
    · rintro (old | rfl)
      · exact old
      · exact covers_iff_normal.mp known
  · rw [gather_of_not_covers (by simpa using known), ← List.cons_append, List.map_append,
      List.mem_append, List.map_singleton, List.mem_singleton]

theorem mem_normal_gatherAll (own : Series) (targets leaves : List Series) (n : Series) :
    n ∈ (own :: own.gatherAll targets leaves).map normal ↔
      n ∈ (own :: targets).map normal ∨ n ∈ leaves.map normal := by
  induction leaves generalizing targets with
  | nil => simp [gatherAll]
  | cons leaf rest ih =>
    have step := ih (own.gather targets leaf)
    rw [mem_normal_gather, or_assoc, ← List.mem_cons, ← List.map_cons] at step
    exact step

end Series

namespace Relation

/-- The series that the relation reads, its primary series first. -/
def read (r : Relation) : List Series :=
  r.series :: r.targets

theorem Tidy.nodup_read {r : Relation} (h : r.Tidy) : (r.read.map Series.normal).Nodup := by
  rw [read, List.map_cons, List.nodup_cons]
  refine ⟨fun mem => ?_, ?_⟩
  · obtain ⟨t, ht, same⟩ := List.mem_map.mp mem
    have equal := Series.equal_iff_normal.mpr same
    rw [h.fresh t ht] at equal
    cases equal
  · refine List.pairwise_map.mpr (h.apart.imp fun {s t} different same => ?_)
    rw [Series.equal_iff_normal.mpr same.symm] at different
    cases different

end Relation

namespace History

/-- The leaves that came to the relation, from the first to the last. At a merge these are the
leaves of what the other relation reads, but for a primary series that is the relation's own. -/
def brought : History → List Series
  | fresh _ => []
  | call before c => before.brought ++ Relation.brought c
  | merge before other =>
    before.brought ++ Relation.incoming before.relation.series other.relation

theorem mem_normal_read (history : History) (n : Series) :
    n ∈ history.relation.read.map Series.normal ↔
      n ∈ (history.relation.series :: history.brought).map Series.normal := by
  induction history with
  | fresh m => rfl
  | call before c ih =>
    obtain ⟨-, series, targets⟩ := Relation.sameSeries_apply before.relation c
    rw [relation, Relation.read, series, targets, Series.mem_normal_gatherAll, brought,
      ← List.cons_append, List.map_append, List.mem_append]
    exact or_congr_left ih
  | merge before other ih _ =>
    rw [relation, Relation.merged_eq, brought, ← List.cons_append, List.map_append,
      List.mem_append]
    refine (Series.mem_normal_gatherAll _ _ _ n).trans ?_
    exact or_congr_left ih

/-- Series are equal just when they have the same normal form. So whatever calls and merges made a
relation, in normal form it reads its primary series and every leaf that came to it, none of them
twice and nothing else. -/
theorem read_distinct (history : History) :
    (∀ a b : Series, a.equal b = true ↔ a.normal = b.normal) ∧
    (history.relation.read.map Series.normal).Nodup ∧
    ∀ n : Series, n ∈ history.relation.read.map Series.normal ↔
      n ∈ (history.relation.series :: history.brought).map Series.normal := by
  exact ⟨fun _ _ => Series.equal_iff_normal, history.tidy_relation.nodup_read,
    history.mem_normal_read⟩

end History

end Telemetry
