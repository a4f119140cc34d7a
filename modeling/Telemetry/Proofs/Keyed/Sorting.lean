import Telemetry.Proofs.Keyed.Lookup

/-!
# Sorting by key

A list is sorted by key stably when its keys do not descend and the entries of each key stand as
they did. Only one list is that, so whatever arranges entries in this way has sorted them. For the
same reason a table is told by what it holds under each key.
-/

namespace Telemetry

variable {α : Type}

def InKeyOrder (entries : List (String × α)) : Prop :=
  entries.Pairwise fun a b => a.1 ≤ b.1

/-- The stable sort: entries of one key stay in their order. -/
def sortByKey (entries : List (String × α)) : List (String × α) :=
  entries.mergeSort fun a b => a.1 ≤ b.1

/-- The lists show the same entries of each key, in the same order. -/
def AlikeByKey (xs ys : List (String × α)) : Prop :=
  ∀ key, xs.filter (fun e => e.1 = key) = ys.filter fun e => e.1 = key

theorem AlikeByKey.symm {xs ys : List (String × α)} (h : AlikeByKey xs ys) : AlikeByKey ys xs :=
  fun key => (h key).symm

theorem AlikeByKey.mem {xs ys : List (String × α)} (h : AlikeByKey xs ys) {e : String × α}
    (mem : e ∈ xs) : e ∈ ys := by
  have found : e ∈ xs.filter fun other => other.1 = e.1 := by simp [mem]
  rw [h e.1] at found
  exact (List.mem_filter.mp found).1

theorem lookup_reverse_of_alike {xs ys : List (String × α)} (alike : AlikeByKey xs ys)
    (key : String) : xs.reverse.lookup key = ys.reverse.lookup key := by
  have found (entries : List (String × α)) : entries.reverse.lookup key =
      (entries.filter fun e => e.1 = key).reverse.lookup key := by
    rw [← List.filter_reverse, lookup_filter (fun other => other = key), decide_eq_true rfl,
      if_pos rfl]
  rw [found xs, found ys, alike key]

theorem AlikeByKey.tails {x y : String × α} {xs ys : List (String × α)} (key : x.1 = y.1)
    (h : AlikeByKey (x :: xs) (y :: ys)) : AlikeByKey xs ys := by
  intro other
  have whole := h other
  rw [List.filter_cons, List.filter_cons, key] at whole
  split at whole
  · exact (List.cons.inj whole).2
  · exact whole

theorem filter_of_nodup {entries : List (String × α)} (distinct : (entries.map (·.1)).Nodup)
    (key : String) :
    entries.filter (fun e => e.1 = key) = ((entries.lookup key).map (key, ·)).toList := by
  induction entries with
  | nil => rfl
  | cons entry rest ih =>
    obtain ⟨fresh, later⟩ := List.nodup_cons.mp distinct
    rw [List.filter_cons, ih later, lookup_cons_eq_ite]
    by_cases same : entry.1 = key
    · have absent : rest.lookup key = none := by
        rw [← Option.not_isSome_iff_eq_none, lookup_isSome_iff, ← same]
        exact fresh
      rw [absent, if_pos same.symm, if_pos (decide_eq_true same), ← same]
      rfl
    · rw [if_neg (Ne.symm same), if_neg (by simpa using same)]

theorem InKeyOrder.head_le {first : String × α} {rest : List (String × α)}
    (h : InKeyOrder (first :: rest)) {e : String × α} (mem : e ∈ first :: rest) :
    first.1 ≤ e.1 := by
  rcases List.mem_cons.mp mem with rfl | later
  · exact String.le_refl e.1
  · exact List.rel_of_pairwise_cons h later

theorem InKeyOrder.eq_of_alike {xs ys : List (String × α)} (hx : InKeyOrder xs)
    (hy : InKeyOrder ys) (alike : AlikeByKey xs ys) : xs = ys := by
  induction xs generalizing ys with
  | nil => exact (List.eq_nil_iff_forall_not_mem.mpr fun e mem => nomatch alike.symm.mem mem).symm
  | cons x xs ih =>
    cases ys with
    | nil => exact nomatch alike.mem List.mem_cons_self
    | cons y ys =>
      -- each head stands in the other list, where no key is below that of the head
      have key : x.1 = y.1 :=
        String.le_antisymm (hx.head_le (alike.symm.mem List.mem_cons_self))
          (hy.head_le (alike.mem List.mem_cons_self))
      have heads := alike x.1
      rw [List.filter_cons_of_pos (by simp), List.filter_cons_of_pos (by simp [key])] at heads
      exact congr (congrArg List.cons (List.cons.inj heads).1)
        (ih hx.tail hy.tail (alike.tails key))

section

variable (entries : List (String × α))

theorem keyLe_trans (a b c : String × α) (hab : decide (a.1 ≤ b.1) = true)
    (hbc : decide (b.1 ≤ c.1) = true) : decide (a.1 ≤ c.1) = true :=
  decide_eq_true (String.le_trans (of_decide_eq_true hab) (of_decide_eq_true hbc))

theorem keyLe_total (a b : String × α) :
    (decide (a.1 ≤ b.1) || decide (b.1 ≤ a.1)) = true := by
  rw [Bool.or_eq_true, decide_eq_true_iff, decide_eq_true_iff]
  exact String.le_total a.1 b.1

theorem inKeyOrder_sortByKey : InKeyOrder (sortByKey entries) :=
  (List.pairwise_mergeSort keyLe_trans keyLe_total entries).imp of_decide_eq_true

theorem alike_sortByKey : AlikeByKey (sortByKey entries) entries := by
  intro key
  have kept : (entries.filter fun e => e.1 = key).Sublist (sortByKey entries) := by
    refine List.sublist_mergeSort keyLe_trans keyLe_total ?_ List.filter_sublist
    refine List.pairwise_of_forall_mem_list ?_
    intro a ha b hb
    rw [of_decide_eq_true (List.mem_filter.mp ha).2, of_decide_eq_true (List.mem_filter.mp hb).2]
    exact decide_eq_true (String.le_refl key)
  have counted := ((List.mergeSort_perm entries fun a b => a.1 ≤ b.1).filter
    fun e => e.1 = key).length_eq
  have found := kept.filter fun e => e.1 = key
  simp only [List.filter_filter, Bool.and_self] at found
  exact (found.eq_of_length counted.symm).symm

end

/-- What is in key order and shows each key as the entries do is their stable sort. -/
theorem InKeyOrder.eq_sortByKey {xs entries : List (String × α)} (h : InKeyOrder xs)
    (alike : AlikeByKey xs entries) : xs = sortByKey entries :=
  h.eq_of_alike (inKeyOrder_sortByKey entries) fun key =>
    (alike key).trans (alike_sortByKey entries key).symm

namespace Keyed

theorem inKeyOrder (table : Keyed α) : InKeyOrder table.entries :=
  table.ascending.imp fun below => String.not_lt.mp (String.lt_asymm below)

theorem filter_entries (table : Keyed α) (key : String) :
    table.entries.filter (fun e => e.1 = key) = ((table.get? key).map (key, ·)).toList :=
  filter_of_nodup table.nodup_keys key

theorem ext_get? {s t : Keyed α} (h : ∀ key, s.get? key = t.get? key) : s = t :=
  ext (s.inKeyOrder.eq_of_alike t.inKeyOrder fun key => by
    rw [filter_entries, filter_entries, h key])

/-- Only the order among entries of one key counts. -/
theorem ofList_of_alike {xs ys : List (String × α)} (alike : AlikeByKey xs ys) :
    ofList xs = ofList ys := by
  refine ext_get? fun key => ?_
  rw [get?_ofList, get?_ofList, lookup_reverse_of_alike alike]

end Keyed

end Telemetry
