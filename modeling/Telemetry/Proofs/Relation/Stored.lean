import Telemetry.Proofs.Condition.WellFormed
import Telemetry.Proofs.Relation.Rejections

/-!
# What relations store

Every clause of a reachable relation is well formed, since it was accepted on its own, and stays as
it was accepted. So are the groups of its `where` section, which are these clauses and the window
after them. The window itself is kept apart: a history without its windows leads to the same
clauses, and a clause that reads like a window was written as raw text. A stored fill is finite.
-/

namespace Telemetry

/-- The same history but for the windows of time that were set. -/
def History.windowless : History → History
  | fresh m => fresh m
  | call before (.within _) => before.windowless
  | call before c => .call before.windowless c
  | merge before other => .merge before.windowless other.windowless

theorem mem_clauses_iff {c : Call} {clause : Clause} :
    clause ∈ c.clauses ↔ .ok clause ∈ c.verdicts := by
  rw [Call.clauses, List.mem_filterMap]
  constructor
  · rintro ⟨verdict, mem, accepted⟩
    cases verdict with
    | ok made =>
      cases accepted
      exact mem
    | error rejection => cases accepted
  · intro mem
    exact ⟨.ok clause, mem, rfl⟩

/-- An accepted clause is on the field of a filter, or raw as it was written. -/
theorem Call.isOn_or_raw_of_mem_clauses {c : Call} {clause : Clause} (h : clause ∈ c.clauses) :
    (∃ field, Text.allBlank field = false ∧ clause.IsOn field) ∨
      ∃ text, Text.allBlank text = false ∧ c = .raw text ∧ clause = .single (.raw text) := by
  have accepted := mem_clauses_iff.mp h
  cases c with
  | filters negated pairs =>
    obtain ⟨⟨field, criterion⟩, -, made⟩ := List.mem_map.mp accepted
    exact Or.inl ⟨field, Criterion.isOn_of_clause made⟩
  | raw text =>
    have made := (List.mem_singleton.mp accepted).symm
    obtain ⟨visible, same⟩ := Criterion.rawClause_eq_ok_iff.mp made
    exact Or.inr ⟨text, visible, rfl, same⟩
  | fill f | timeWithFill _ f =>
    obtain ⟨rejection, -, made⟩ := List.mem_map.mp accepted
    cases made
  | _ => cases accepted

theorem Call.wellFormed_of_mem_clauses {c : Call} {clause : Clause} (h : clause ∈ c.clauses) :
    clause.WellFormed := by
  rcases isOn_or_raw_of_mem_clauses h with ⟨field, named, on⟩ | ⟨text, visible, -, rfl⟩
  · exact .on named on
  · exact .raw visible

/-- Raw text makes no clause but its own, and nothing else makes it. -/
theorem Call.eq_raw_of_mem_clauses {c : Call} {text : String}
    (h : Clause.single (.raw text) ∈ c.clauses) : c = .raw text := by
  rcases isOn_or_raw_of_mem_clauses h with ⟨field, -, on⟩ | ⟨written, -, rfl, same⟩
  · exact absurd rfl on.ne_raw
  · cases same
    rfl

theorem Fill.finite_of_accepted {fill : Fill} {x : Double}
    (h : fill.accepted? = some (.float x)) : x.isFinite = true := by
  unfold Fill.accepted? at h
  split at h
  · cases h
  · rename_i unrejected
    cases h
    cases finite : x.isFinite with
    | true => rfl
    | false => exact absurd (by simp [Fill.rejection?, finite]) unrejected

theorem Call.finite_of_contribution {c : Call} {x : Double}
    (h : c.contribution.fill = some (.float x)) : x.isFinite = true := by
  cases c with
  | fill f | timeWithFill _ f => exact Fill.finite_of_accepted h
  | _ => cases h

namespace History

/-- No window makes a clause, so none is missed. -/
theorem clauses_windowless (history : History) :
    history.windowless.calls.flatMap Call.clauses = history.calls.flatMap Call.clauses := by
  induction history with
  | fresh m => rfl
  | call before c ih =>
    cases c with
    | within window =>
      rw [windowless, ih, calls, List.flatMap_append, Call.flatMap_singles]
      exact (List.append_nil _).symm
    | _ => simp only [windowless, calls, List.flatMap_append, ih]
  | merge before other ih ihOther =>
    rw [windowless, calls, calls, List.flatMap_append, List.flatMap_append, ih, ihOther]

theorem fill_finite (history : History) {x : Double}
    (h : history.relation.grouping.fill = some (.float x)) : x.isFinite = true := by
  induction history with
  | fresh m => cases h
  | call before c ih =>
    rw [relation, Relation.apply_eq] at h
    rcases Option.or_eq_some_iff.mp h with set | ⟨-, kept⟩
    · exact Call.finite_of_contribution set
    · exact ih kept
  | merge before other ih ihOther =>
    rw [relation, Relation.merged_eq] at h
    rcases Option.or_eq_some_iff.mp h with set | ⟨-, kept⟩
    · exact ihOther set
    · exact ih kept

/-- A window shows the word that it begins with. -/
theorem wellFormed_window (window : Window) : window.clause.WellFormed := by
  have visible (text : String) : Text.allBlank ("time > " ++ text) = false := by
    rw [Text.allBlank, String.toList_append]
    rfl
  cases window with
  | past interval => exact .raw (visible ("now() - " ++ interval.text))
  | since instant => exact .raw (visible (toString instant.seconds ++ "s"))

/-- Every clause that is stored is well formed, and so is every group that is written after `where`.
The windows of a history have no part in its clauses: these are the same without them, and one that
reads like a window was written as raw text. A stored fill is finite. -/
theorem stored_wellFormed (history : History) :
    let r := history.relation
    let groups := r.clauses ++ (r.window.map Window.clause).toList
    (∀ clause ∈ r.clauses, clause.WellFormed) ∧
    history.windowless.relation.clauses = r.clauses ∧
    (∀ window : Window, window.clause ∈ r.clauses →
      ∃ text, .raw text ∈ history.calls ∧ window.clause = .single (.raw text)) ∧
    (∀ x, r.grouping.fill = some (.float x) → x.isFinite = true) ∧
    (∀ group ∈ groups, group.WellFormed) ∧ r.conditions = groups.map Clause.text := by
  intro r groups
  have clauses : r.clauses = history.calls.flatMap Call.clauses := history.relation_verdicts.2
  have wellFormed : ∀ clause ∈ r.clauses, clause.WellFormed := by
    intro clause mem
    rw [clauses] at mem
    obtain ⟨c, -, made⟩ := List.mem_flatMap.mp mem
    exact Call.wellFormed_of_mem_clauses made
  refine ⟨wellFormed, ?_, ?_, fun x => history.fill_finite, ?_, rfl⟩
  · rw [clauses, history.windowless.relation_verdicts.2, clauses_windowless]
  · intro window mem
    rw [clauses] at mem
    obtain ⟨c, called, made⟩ := List.mem_flatMap.mp mem
    obtain ⟨text, same⟩ : ∃ text, window.clause = .single (.raw text) := by
      cases window <;> exact ⟨_, rfl⟩
    rw [same] at made
    exact ⟨text, Call.eq_raw_of_mem_clauses made ▸ called, same⟩
  · intro group mem
    rcases List.mem_append.mp mem with mem | mem
    · exact wellFormed group mem
    · rw [Option.mem_toList] at mem
      obtain ⟨window, -, rfl⟩ := Option.map_eq_some_iff.mp mem
      exact wellFormed_window window

end History

end Telemetry
