import Telemetry.Series

/-!
# Gathering leaves

Once the nested lists of a series are opened, its leaves remain: names, patterns and computed
series, from left to right. A series that is no list is its own one leaf, and no leaf is a list.
Equality of series is equality of their texts, so it is an equivalence but not identity: a list of
one item equals the item.

Leaves join a list of series one by one. A leaf is left out when it equals the list's own primary
series or one that joined before, so what a list covers it goes on to cover, and it only grows at
its end. A fold that runs through what another list has gathered adds nothing else than one that
runs through the leaves themselves, once the other list's primary series is covered.
-/

namespace Telemetry.Series

def isList : Series → Bool
  | .list _ => true
  | _ => false

theorem equal_iff {a b : Series} : a.equal b = true ↔ a.text = b.text := by
  simp [equal]

theorem equal_refl (a : Series) : a.equal a = true :=
  equal_iff.mpr rfl

theorem equal_comm (a b : Series) : a.equal b = b.equal a := by
  rw [Bool.eq_iff_iff, equal_iff, equal_iff]
  exact eq_comm

theorem equal_trans {a b c : Series} (hab : a.equal b = true) (hbc : b.equal c = true) :
    a.equal c = true :=
  equal_iff.mpr ((equal_iff.mp hab).trans (equal_iff.mp hbc))

theorem leaves_of_not_list {s : Series} (h : s.isList = false) : s.leaves = [s] := by
  cases s with
  | list items => cases h
  | _ => rfl

mutual

theorem not_list_of_mem_leaves {leaf : Series} :
    ∀ s : Series, leaf ∈ s.leaves → leaf.isList = false
  | .name _, h => by
    rw [List.mem_singleton.mp h]
    rfl
  | .pattern _, h => by
    rw [List.mem_singleton.mp h]
    rfl
  | .computed _, h => by
    rw [List.mem_singleton.mp h]
    rfl
  | .list items, h => not_list_of_mem_leavesOf items h

theorem not_list_of_mem_leavesOf {leaf : Series} :
    ∀ items : List Series, leaf ∈ leavesOf items → leaf.isList = false
  | [], h => by cases h
  | item :: rest, h => by
    rcases List.mem_append.mp h with h | h
    · exact not_list_of_mem_leaves item h
    · exact not_list_of_mem_leavesOf rest h

end

/-- Series that are no lists are their own leaves. -/
theorem flatMap_leaves {items : List Series} (h : ∀ s ∈ items, s.isList = false) :
    items.flatMap leaves = items := by
  induction items with
  | nil => rfl
  | cons item rest ih =>
    rw [List.flatMap_cons, leaves_of_not_list (h item List.mem_cons_self),
      ih fun s hs => h s (List.mem_cons_of_mem _ hs)]
    rfl

def covers (own : Series) (targets : List Series) (leaf : Series) : Bool :=
  leaf.equal own || targets.any leaf.equal

def gather (own : Series) (targets : List Series) (leaf : Series) : List Series :=
  if own.covers targets leaf then targets else targets ++ [leaf]

def gatherAll (own : Series) (targets leaves : List Series) : List Series :=
  leaves.foldl own.gather targets

variable {own mid leaf : Series} {targets : List Series}

theorem covers_iff :
    own.covers targets leaf = true ↔
      leaf.equal own = true ∨ ∃ t ∈ targets, leaf.equal t = true := by
  simp [covers]

theorem covers_congr {other : Series} (h : leaf.equal other = true) :
    own.covers targets leaf = own.covers targets other := by
  have swap (s : Series) : leaf.equal s = other.equal s := by
    rw [Bool.eq_iff_iff]
    exact ⟨equal_trans (equal_comm leaf other ▸ h), equal_trans h⟩
  have swapped : leaf.equal = other.equal := funext swap
  simp only [covers, swapped]

theorem gather_of_covers (h : own.covers targets leaf = true) :
    own.gather targets leaf = targets :=
  if_pos h

theorem gather_of_not_covers (h : own.covers targets leaf = false) :
    own.gather targets leaf = targets ++ [leaf] :=
  if_neg (by simp [h])

theorem covers_gather_self (own : Series) (targets : List Series) (leaf : Series) :
    own.covers (own.gather targets leaf) leaf = true := by
  by_cases h : own.covers targets leaf = true
  · rw [gather_of_covers h]
    exact h
  · rw [gather_of_not_covers (by simpa using h)]
    exact covers_iff.mpr (Or.inr ⟨leaf, by simp, equal_refl leaf⟩)

theorem gatherAll_append (own : Series) (targets xs ys : List Series) :
    own.gatherAll targets (xs ++ ys) = own.gatherAll (own.gatherAll targets xs) ys :=
  List.foldl_append

/-- Nothing else is gathered than the leaves. -/
theorem mem_gatherAll {leaves : List Series} {s : Series} (h : s ∈ own.gatherAll targets leaves) :
    s ∈ targets ∨ s ∈ leaves := by
  induction leaves generalizing targets with
  | nil => exact Or.inl h
  | cons leaf rest ih =>
    rcases ih h with gathered | later
    · by_cases known : own.covers targets leaf = true
      · rw [gather_of_covers known] at gathered
        exact Or.inl gathered
      · rw [gather_of_not_covers (by simpa using known)] at gathered
        rcases List.mem_append.mp gathered with old | joined
        · exact Or.inl old
        · exact Or.inr (List.mem_cons.mpr (Or.inl (List.mem_singleton.mp joined)))
    · exact Or.inr (List.mem_cons_of_mem _ later)

/-- Targets only ever grow, at the end. -/
theorem prefix_gatherAll (own : Series) (targets leaves : List Series) :
    targets <+: own.gatherAll targets leaves := by
  induction leaves generalizing targets with
  | nil => exact List.prefix_rfl
  | cons leaf rest ih =>
    refine List.IsPrefix.trans ?_ (ih (own.gather targets leaf))
    by_cases h : own.covers targets leaf = true
    · exact (gather_of_covers h).symm ▸ List.prefix_rfl
    · rw [gather_of_not_covers (by simpa using h)]
      exact List.prefix_append targets [leaf]

/-- What is gathered follows what was there, in the order in which each series first occurs. -/
theorem gatherAll_eq (own : Series) (targets leaves : List Series) :
    own.gatherAll targets leaves =
      targets ++ (leaves.filter fun leaf => !own.covers targets leaf).eraseDupsBy equal := by
  induction leaves generalizing targets with
  | nil => exact (List.append_nil targets).symm
  | cons leaf rest ih =>
    by_cases known : own.covers targets leaf = true
    · calc own.gatherAll targets (leaf :: rest)
          = own.gatherAll targets rest := congrArg (own.gatherAll · rest) (gather_of_covers known)
        _ = targets ++ ((leaf :: rest).filter fun s => !own.covers targets s).eraseDupsBy equal := by
          rw [ih, List.filter_cons_of_neg (by simp [known])]
    · have unknown : own.covers targets leaf = false := by simpa using known
      -- later series are held against the joined one too
      have later (s : Series) : (!own.covers (targets ++ [leaf]) s) =
          (decide (s.equal leaf = false) && !own.covers targets s) := by
        cases same : s.equal leaf <;> simp [covers, List.any_append, same]
      calc own.gatherAll targets (leaf :: rest)
          = own.gatherAll (targets ++ [leaf]) rest :=
            congrArg (own.gatherAll · rest) (gather_of_not_covers unknown)
        _ = targets ++ leaf :: ((rest.filter fun s => !own.covers targets s).filter
              fun s => decide (s.equal leaf = false)).eraseDupsBy equal := by
          rw [ih, List.filter_filter, funext later, List.append_assoc, List.singleton_append]
        _ = targets ++ ((leaf :: rest).filter fun s => !own.covers targets s).eraseDupsBy equal := by
          rw [List.filter_cons_of_pos (by simp [unknown]), List.eraseDupsBy_cons]

theorem covers_gatherAll (h : own.covers targets leaf = true) (leaves : List Series) :
    own.covers (own.gatherAll targets leaves) leaf = true := by
  rw [covers_iff] at h ⊢
  rcases h with h | ⟨t, ht, h⟩
  · exact Or.inl h
  · exact Or.inr ⟨t, (prefix_gatherAll own targets leaves).subset ht, h⟩

theorem covers_of_mem_leaves {leaves : List Series} (h : leaf ∈ leaves) :
    own.covers (own.gatherAll targets leaves) leaf = true := by
  induction leaves generalizing targets with
  | nil => cases h
  | cons first rest ih =>
    rcases List.mem_cons.mp h with rfl | h
    · exact covers_gatherAll (covers_gather_self own targets leaf) rest
    · exact ih h

theorem gatherAll_of_covered {leaves : List Series}
    (known : ∀ leaf ∈ leaves, own.covers targets leaf = true) :
    own.gatherAll targets leaves = targets := by
  have none : (leaves.filter fun leaf => !own.covers targets leaf) = [] :=
    List.filter_eq_nil_iff.mpr fun leaf mem => by simp [known leaf mem]
  rw [gatherAll_eq, none]
  exact List.append_nil targets

/-- How leaves join a list of series: those that were there keep their places, new ones follow in
the order of first occurrence, and each leaf equals the primary series or one of the list. -/
structure Joins (own : Series) (before leaves after : List Series) : Prop where
  order : after =
    before ++ (leaves.filter fun leaf => !own.covers before leaf).eraseDupsBy equal
  kept : ∀ leaf ∈ leaves, leaf.equal own = true ∨ ∃ t ∈ after, leaf.equal t = true

theorem joins_gatherAll (own : Series) (targets leaves : List Series) :
    own.Joins targets leaves (own.gatherAll targets leaves) :=
  ⟨gatherAll_eq own targets leaves, fun _ mem => covers_iff.mp (covers_of_mem_leaves mem)⟩

/-- Through the targets of another list, over its own primary series `mid`, come exactly the leaves
that came to that list, provided that `mid` is covered by the time. -/
theorem gatherAll_append_gatherAll {start before : List Series} (leaves : List Series)
    (h : own.covers (own.gatherAll start before) mid = true) :
    own.gatherAll start (before ++ mid.gatherAll targets leaves) =
      own.gatherAll start (before ++ targets ++ leaves) := by
  induction leaves generalizing targets with
  | nil => simp [gatherAll]
  | cons leaf rest ih =>
    -- what `mid` or its targets cover is covered here too, so skipping it changes nothing
    by_cases known : mid.covers targets leaf = true
    · have covered : own.covers (own.gatherAll start (before ++ targets)) leaf = true := by
        rw [gatherAll_append]
        rcases covers_iff.mp known with same | ⟨t, ht, same⟩
        · rw [covers_congr same]
          exact covers_gatherAll h targets
        · rw [covers_congr same]
          exact covers_of_mem_leaves ht
      have skipped : own.gatherAll start (before ++ targets ++ leaf :: rest) =
          own.gatherAll start (before ++ targets ++ rest) := by
        rw [gatherAll_append _ _ _ (leaf :: rest), gatherAll_append _ _ _ rest]
        exact congrArg (own.gatherAll · rest) (gather_of_covers covered)
      have shorter : mid.gatherAll targets (leaf :: rest) = mid.gatherAll targets rest :=
        congrArg (mid.gatherAll · rest) (gather_of_covers known)
      rw [skipped, shorter]
      exact ih
    · have longer : mid.gatherAll targets (leaf :: rest) =
          mid.gatherAll (targets ++ [leaf]) rest :=
        congrArg (mid.gatherAll · rest) (gather_of_not_covers (by simpa using known))
      rw [longer, ih]
      simp

/-- Leaves that are apart from all else join in their order. -/
theorem gatherAll_of_apart {leaves : List Series}
    (fresh : ∀ leaf ∈ leaves, own.covers targets leaf = false)
    (apart : leaves.Pairwise fun s t => t.equal s = false) :
    own.gatherAll targets leaves = targets ++ leaves := by
  induction leaves generalizing targets with
  | nil => simp [gatherAll]
  | cons leaf rest ih =>
    obtain ⟨first, others⟩ := List.pairwise_cons.mp apart
    have joined : own.gather targets leaf = targets ++ [leaf] :=
      gather_of_not_covers (fresh leaf List.mem_cons_self)
    have later : ∀ other ∈ rest, own.covers (targets ++ [leaf]) other = false := by
      intro other hother
      have old := fresh other (List.mem_cons_of_mem _ hother)
      simp only [covers, Bool.or_eq_false_iff] at old
      simp [covers, List.any_append, old.1, old.2, first other hother]
    calc own.gatherAll targets (leaf :: rest)
        = own.gatherAll (own.gather targets leaf) rest := rfl
      _ = own.gatherAll (targets ++ [leaf]) rest := by rw [joined]
      _ = targets ++ leaf :: rest := by rw [ih later others]; simp

end Telemetry.Series
