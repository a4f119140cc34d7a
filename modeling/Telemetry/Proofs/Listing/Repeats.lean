import Mathlib.Data.List.Induction
import Mathlib.Data.List.Nodup

/-!
# Lists without repeats

What is left of a list without its repeats are its entries, once and where they stood first. Repeats
may as well be left out before entries are chosen, before more of them follow, or of those that
follow.
-/

namespace Telemetry

variable {α : Type} [DecidableEq α]

/-- An entry that follows others counts when it is not among them. -/
theorem eraseDups_concat (names : List α) (added : α) :
    (names ++ [added]).eraseDups =
      if added ∈ names then names.eraseDups else names.eraseDups ++ [added] := by
  rw [List.eraseDups_append]
  by_cases known : added ∈ names
  · rw [if_pos known]
    simp [List.removeAll, known]
  · rw [if_neg known]
    simp [List.removeAll, known, List.eraseDups_cons]

/-- Repeats may be left out before or after entries are chosen. -/
theorem eraseDups_filter (chosen : α → Bool) (names : List α) :
    (names.filter chosen).eraseDups = names.eraseDups.filter chosen := by
  induction names using List.reverseRecOn with
  | nil => rfl
  | append_singleton names last ih =>
    rw [eraseDups_concat, List.filter_append]
    by_cases kept : chosen last = true
    · rw [List.filter_cons_of_pos kept, List.filter_nil, eraseDups_concat, ih]
      by_cases known : last ∈ names
      · rw [if_pos known, if_pos (List.mem_filter.mpr ⟨known, kept⟩)]
      · have new : last ∉ names.filter chosen := fun mem => known (List.mem_filter.mp mem).1
        rw [if_neg known, if_neg new, List.filter_append, List.filter_cons_of_pos kept,
          List.filter_nil]
    · rw [List.filter_cons_of_neg kept, List.filter_nil, List.append_nil, ih]
      by_cases known : last ∈ names
      · rw [if_pos known]
      · rw [if_neg known, List.filter_append, List.filter_cons_of_neg kept, List.filter_nil,
          List.append_nil]

/-- The entries are those that are given, each of them where it is given first. -/
structure FirstOccurrences (given entries : List α) : Prop where
  distinct : entries.Nodup
  mem_iff : ∀ a, a ∈ entries ↔ a ∈ given
  ordered : entries.Pairwise fun a b => given.idxOf a < given.idxOf b

namespace FirstOccurrences

variable {given entries : List α} {last : α}

theorem still_ordered (h : FirstOccurrences given entries) (last : α) :
    entries.Pairwise fun a b => (given ++ [last]).idxOf a < (given ++ [last]).idxOf b := by
  refine h.ordered.imp_of_mem fun {a b} ha hb before => ?_
  rwa [List.idxOf_append_of_mem ((h.mem_iff a).mp ha),
    List.idxOf_append_of_mem ((h.mem_iff b).mp hb)]

theorem repeated (h : FirstOccurrences given entries) (known : last ∈ given) :
    FirstOccurrences (given ++ [last]) entries := by
  refine ⟨h.distinct, fun a => (h.mem_iff a).trans ?_, h.still_ordered last⟩
  rw [List.mem_append, List.mem_singleton]
  exact ⟨Or.inl, fun mem => mem.elim id fun same => same ▸ known⟩

theorem added (h : FirstOccurrences given entries) (new : last ∉ given) :
    FirstOccurrences (given ++ [last]) (entries ++ [last]) := by
  refine ⟨?_, fun a => ?_, ?_⟩
  · rw [← List.concat_eq_append]
    exact h.distinct.concat (mt (h.mem_iff last).mp new)
  · rw [List.mem_append, List.mem_append, h.mem_iff]
  · rw [List.pairwise_append]
    refine ⟨h.still_ordered last, List.pairwise_singleton _ last, fun a ha b hb => ?_⟩
    have earlier : a ∈ given := (h.mem_iff a).mp ha
    rw [List.mem_singleton.mp hb, List.idxOf_append_of_mem earlier,
      List.idxOf_append_of_notMem new]
    exact Nat.lt_add_right _ (List.idxOf_lt_length_of_mem earlier)

end FirstOccurrences

theorem firstOccurrences_eraseDups (given : List α) : FirstOccurrences given given.eraseDups := by
  induction given using List.reverseRecOn with
  | nil => exact ⟨List.nodup_nil, fun _ => List.mem_eraseDups, List.Pairwise.nil⟩
  | append_singleton given last ih =>
    rw [eraseDups_concat]
    split
    case isTrue known => exact ih.repeated known
    case isFalse new => exact ih.added new

theorem eraseDups_eraseDups (xs : List α) : xs.eraseDups.eraseDups = xs.eraseDups := by
  induction xs using List.reverseRecOn with
  | nil => rfl
  | append_singleton xs last ih =>
    rw [eraseDups_concat]
    split
    case isTrue known => exact ih
    case isFalse new => rw [eraseDups_concat, if_neg (mt List.mem_eraseDups.mp new), ih]

/-- Repeats may be left out before more is given. -/
theorem eraseDups_eraseDups_append (xs ys : List α) :
    (xs.eraseDups ++ ys).eraseDups = (xs ++ ys).eraseDups := by
  induction ys using List.reverseRecOn with
  | nil => rw [List.append_nil, List.append_nil, eraseDups_eraseDups]
  | append_singleton ys last ih =>
    have known : last ∈ xs.eraseDups ++ ys ↔ last ∈ xs ++ ys := by
      rw [List.mem_append, List.mem_append, List.mem_eraseDups]
    rw [← List.append_assoc, ← List.append_assoc, eraseDups_concat, eraseDups_concat, ih]
    exact if_congr known rfl rfl

/-- Repeats may be left out of what is given later. -/
theorem eraseDups_append_eraseDups (xs ys : List α) :
    (xs ++ ys.eraseDups).eraseDups = (xs ++ ys).eraseDups := by
  induction ys using List.reverseRecOn with
  | nil => rfl
  | append_singleton ys last ih =>
    rw [← List.append_assoc, eraseDups_concat (xs ++ ys), eraseDups_concat ys]
    by_cases known : last ∈ ys
    · rw [if_pos known, if_pos (List.mem_append_right xs known), ih]
    · have known' : last ∈ xs ++ ys.eraseDups ↔ last ∈ xs ++ ys := by
        rw [List.mem_append, List.mem_append, List.mem_eraseDups]
      rw [if_neg known, ← List.append_assoc, eraseDups_concat, ih]
      exact if_congr known' rfl rfl

theorem eraseDups_append_of_present {xs ys : List α} (h : ∀ y ∈ ys, y ∈ xs) :
    (xs ++ ys).eraseDups = xs.eraseDups := by
  have nothing : ys.removeAll xs = [] := by
    refine List.filter_eq_nil_iff.mpr fun y mem => ?_
    simpa using h y mem
  rw [List.eraseDups_append, nothing]
  exact List.append_nil _

end Telemetry
