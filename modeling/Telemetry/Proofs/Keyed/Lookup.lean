import Telemetry.Keyed

/-!
# Looking entries up

What a table holds under a key after entries were inserted, filtered or listed. Inserting replaces
what was there, of listed entries the last counts.
-/

namespace Telemetry

variable {α : Type}

theorem lookup_cons_eq_ite (key : String) (value : α) (rest : List (String × α)) (other : String) :
    ((key, value) :: rest).lookup other =
      if other = key then some value else rest.lookup other := by
  by_cases same : other = key
  · simp [same]
  · simp [List.lookup_cons, beq_eq_false_iff_ne.mpr same, same]

theorem lookup_insertEntry (key : String) (value : α) (entries : List (String × α))
    (other : String) :
    (insertEntry key value entries).lookup other =
      if other = key then some value else entries.lookup other := by
  induction entries with
  | nil => exact lookup_cons_eq_ite key value [] other
  | cons entry rest ih =>
    unfold insertEntry
    split
    case isTrue below => exact lookup_cons_eq_ite key value (entry :: rest) other
    case isFalse notBelow =>
      split
      case isTrue above =>
        have apart : key ≠ entry.1 := fun same => String.lt_irrefl key (same ▸ above)
        rw [lookup_cons_eq_ite, ih, lookup_cons_eq_ite]
        by_cases first : other = entry.1
        · rw [if_pos first, if_pos first, if_neg (first ▸ apart.symm)]
        · rw [if_neg first, if_neg first]
      case isFalse notAbove =>
        have same : entry.1 = key :=
          String.le_antisymm (String.not_lt.mp notBelow) (String.not_lt.mp notAbove)
        rw [lookup_cons_eq_ite, lookup_cons_eq_ite, same]
        by_cases first : other = key
        · rw [if_pos first, if_pos first]
        · rw [if_neg first, if_neg first, if_neg first]

theorem lookup_filter (keep : String → Bool) (entries : List (String × α)) (key : String) :
    (entries.filter fun e => keep e.1).lookup key =
      if keep key then entries.lookup key else none := by
  induction entries with
  | nil => simp
  | cons entry rest ih =>
    by_cases kept : keep entry.1 = true
    · rw [List.filter_cons, if_pos kept, lookup_cons_eq_ite, ih, lookup_cons_eq_ite]
      by_cases same : key = entry.1
      · rw [if_pos same, if_pos same, same, if_pos kept]
      · rw [if_neg same, if_neg same]
    · rw [List.filter_cons, if_neg kept, ih, lookup_cons_eq_ite]
      by_cases same : key = entry.1
      · rw [same, if_neg kept, if_neg kept]
      · rw [if_neg same]

theorem lookup_isSome_iff {entries : List (String × α)} {key : String} :
    (entries.lookup key).isSome = true ↔ key ∈ entries.map (·.1) := by
  induction entries with
  | nil => simp
  | cons entry rest ih =>
    rw [lookup_cons_eq_ite, List.map_cons, List.mem_cons, ← ih]
    by_cases same : key = entry.1 <;> simp [same]

/-- Where no key stands twice the first entry of a key is the last. -/
theorem lookup_reverse {entries : List (String × α)} (distinct : (entries.map (·.1)).Nodup)
    (key : String) : entries.reverse.lookup key = entries.lookup key := by
  induction entries with
  | nil => rfl
  | cons entry rest ih =>
    obtain ⟨fresh, later⟩ := List.nodup_cons.mp distinct
    rw [List.reverse_cons, List.lookup_append, ih later, lookup_cons_eq_ite, lookup_cons_eq_ite]
    by_cases same : key = entry.1
    · have absent : rest.lookup key = none := by
        rw [← Option.not_isSome_iff_eq_none, lookup_isSome_iff, same]
        exact fresh
      rw [if_pos same, if_pos same, absent, Option.none_or]
    · rw [if_neg same, if_neg same, List.lookup_nil, Option.or_none]

/-- Looking up from the end finds the last entry of a key. -/
theorem lookup_reverse_eq_some_iff {entries : List (String × α)} {key : String} {value : α} :
    entries.reverse.lookup key = some value ↔
      ∃ before after, entries = before ++ (key, value) :: after ∧ key ∉ after.map (·.1) := by
  rw [List.lookup_eq_some_iff]
  constructor
  · rintro ⟨later, earlier, split, fresh⟩
    refine ⟨earlier.reverse, later.reverse, ?_, ?_⟩
    · rw [← entries.reverse_reverse, split]
      simp
    · rw [List.map_reverse, List.mem_reverse, List.mem_map]
      rintro ⟨e, mem, rfl⟩
      simpa using fresh e mem
  · rintro ⟨before, after, rfl, fresh⟩
    refine ⟨after.reverse, before.reverse, by simp, fun e mem => ?_⟩
    rw [bne_iff_ne]
    rintro rfl
    exact fresh (List.mem_map_of_mem (List.mem_reverse.mp mem))

namespace Keyed

theorem nodup_keys (table : Keyed α) : table.keys.Nodup := by
  refine List.pairwise_map.mpr (table.ascending.imp ?_)
  intro a b below same
  exact String.lt_irrefl b.1 (same ▸ below)

theorem get?_insert (table : Keyed α) (key : String) (value : α) (other : String) :
    (table.insert key value).get? other = if other = key then some value else table.get? other :=
  lookup_insertEntry key value table.entries other

theorem get?_filter (table : Keyed α) (keep : String → Bool) (key : String) :
    (table.filter keep).get? key = if keep key then table.get? key else none :=
  lookup_filter keep table.entries key

theorem mem_keys_iff {table : Keyed α} {key : String} :
    key ∈ table.keys ↔ (table.get? key).isSome = true :=
  lookup_isSome_iff.symm

/-- Of entries with one key the last counts. -/
theorem get?_ofList (entries : List (String × α)) (key : String) :
    (ofList entries).get? key = entries.reverse.lookup key := by
  have folded (table : Keyed α) :
      (entries.foldl (fun table entry => table.insert entry.1 entry.2) table).get? key =
        (entries.reverse.lookup key).or (table.get? key) := by
    induction entries generalizing table with
    | nil => rfl
    | cons entry rest ih =>
      rw [List.foldl_cons, ih, get?_insert, List.reverse_cons, List.lookup_append,
        lookup_cons_eq_ite, Option.or_assoc]
      by_cases same : key = entry.1 <;> simp [same]
  rw [ofList, folded]
  exact Option.or_none

theorem get?_ofList_eq_some_iff {entries : List (String × α)} {key : String} {value : α} :
    (ofList entries).get? key = some value ↔
      ∃ before after, entries = before ++ (key, value) :: after ∧ key ∉ after.map (·.1) := by
  rw [get?_ofList, lookup_reverse_eq_some_iff]

end Keyed

theorem insertEntry_of_above {key : String} {value : α} {entries : List (String × α)}
    (above : ∀ e ∈ entries, e.1 < key) :
    insertEntry key value entries = entries ++ [(key, value)] := by
  induction entries with
  | nil => rfl
  | cons entry rest ih =>
    have below : entry.1 < key := above entry List.mem_cons_self
    rw [insertEntry, if_neg (String.lt_asymm below), if_pos below,
      ih fun e mem => above e (List.mem_cons_of_mem _ mem)]
    rfl

/-- Entries that stand in key order are listed as they are. -/
theorem Keyed.entries_ofList {entries : List (String × α)} (ascending : Ascending entries) :
    (ofList entries).entries = entries := by
  have folded (table : Keyed α) (h : Ascending (table.entries ++ entries)) :
      (entries.foldl (fun table entry => table.insert entry.1 entry.2) table).entries =
        table.entries ++ entries := by
    clear ascending
    induction entries generalizing table with
    | nil => exact (List.append_nil _).symm
    | cons entry rest ih =>
      have appended : (table.insert entry.1 entry.2).entries = table.entries ++ [entry] :=
        insertEntry_of_above fun e mem => (List.pairwise_append.mp h).2.2 e mem entry (by simp)
      rw [List.append_cons] at h
      rw [List.foldl_cons, ih _ (appended ▸ h), appended, ← List.append_cons]
  exact folded empty ascending

end Telemetry
