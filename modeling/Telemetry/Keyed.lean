/-!
# Tables in key order

A table keeps its entries in strictly ascending order of their keys, so equal contents are equal
tables and every listing is sorted. Writing to a key that is present replaces its value.
-/

namespace Telemetry

def insertEntry {α : Type} (key : String) (value : α) : List (String × α) → List (String × α)
  | [] => [(key, value)]
  | entry :: rest =>
    if key < entry.1 then (key, value) :: entry :: rest
    else if entry.1 < key then entry :: insertEntry key value rest
    else (key, value) :: rest

def Ascending {α : Type} (entries : List (String × α)) : Prop :=
  entries.Pairwise fun a b => a.1 < b.1

theorem mem_insertEntry {α : Type} {key : String} {value : α} {entries : List (String × α)}
    {e : String × α} (h : e ∈ insertEntry key value entries) : e = (key, value) ∨ e ∈ entries := by
  induction entries with
  | nil => exact Or.inl (List.mem_singleton.mp h)
  | cons entry rest ih =>
    unfold insertEntry at h
    split at h
    · simpa using h
    · split at h
      · rcases List.mem_cons.mp h with he | he
        · exact Or.inr (by simp [he])
        · exact (ih he).imp_right fun hr => List.mem_cons_of_mem _ hr
      · rcases List.mem_cons.mp h with he | he
        · exact Or.inl he
        · exact Or.inr (List.mem_cons_of_mem _ he)

theorem Ascending.insertEntry {α : Type} {entries : List (String × α)} (h : Ascending entries)
    (key : String) (value : α) : Ascending (insertEntry key value entries) := by
  induction entries with
  | nil => simp [Telemetry.insertEntry, Ascending]
  | cons entry rest ih =>
    obtain ⟨first, tail⟩ := List.pairwise_cons.mp h
    unfold Telemetry.insertEntry
    split
    case isTrue below =>
      refine List.pairwise_cons.mpr ⟨fun e he => ?_, h⟩
      rcases List.mem_cons.mp he with rfl | he
      · exact below
      · exact String.lt_trans below (first e he)
    case isFalse notBelow =>
      split
      case isTrue above =>
        refine List.pairwise_cons.mpr ⟨fun e he => ?_, ih tail⟩
        rcases mem_insertEntry he with rfl | he
        · exact above
        · exact first e he
      case isFalse notAbove =>
        have same : entry.1 = key :=
          String.le_antisymm (String.not_lt.mp notBelow) (String.not_lt.mp notAbove)
        exact List.pairwise_cons.mpr ⟨fun e he => same ▸ first e he, tail⟩

structure Keyed (α : Type) where
  entries : List (String × α)
  ascending : Ascending entries

namespace Keyed

variable {α β : Type}

def empty : Keyed α := ⟨[], List.Pairwise.nil⟩

instance : Inhabited (Keyed α) := ⟨empty⟩

def insert (table : Keyed α) (key : String) (value : α) : Keyed α :=
  ⟨insertEntry key value table.entries, table.ascending.insertEntry key value⟩

def get? (table : Keyed α) (key : String) : Option α :=
  table.entries.lookup key

/-- Later entries replace earlier ones of the same key. -/
def ofList (entries : List (String × α)) : Keyed α :=
  entries.foldl (fun table entry => table.insert entry.1 entry.2) empty

def keys (table : Keyed α) : List String := table.entries.map (·.1)

def values (table : Keyed α) : List α := table.entries.map (·.2)

def filter (table : Keyed α) (keep : String → Bool) : Keyed α :=
  ⟨table.entries.filter fun e => keep e.1, table.ascending.filter _⟩

/-- The value under `key` becomes `update` of it, or of nothing when the key is new. -/
def alter (table : Keyed α) (key : String) (update : Option α → α) : Keyed α :=
  table.insert key (update (table.get? key))

@[ext] theorem ext {s t : Keyed α} (h : s.entries = t.entries) : s = t := by
  cases s; cases t; cases h; rfl

end Keyed

end Telemetry
