import Telemetry.Datastore.Rows
import Telemetry.Proofs.Datastore.Response
import Telemetry.Proofs.Keyed.Sorting

/-!
# Rows become points

Entries of one series may stand anywhere among the others, and their rows may be longer or shorter
than their columns. Each row still becomes one point, of the cells that have a column, and the
points of a response are those of all rows, sorted by series and otherwise as they came.
-/

namespace Telemetry

/-- Items of lists, each under the key of its list. -/
def underKeys {α : Type} (entries : List (String × List α)) : List (String × α) :=
  entries.flatMap fun e => e.2.map (e.1, ·)

namespace Keyed

variable {α : Type}

theorem map_underKeys (table : Keyed (List α)) :
    (underKeys table.entries).map (·.2) = table.values.flatten := by
  rw [underKeys, List.map_flatMap, values, ← List.flatMap_def]
  simp only [List.map_map, Function.comp_def, List.map_id']

theorem inKeyOrder_underKeys (table : Keyed (List α)) : InKeyOrder (underKeys table.entries) := by
  refine List.pairwise_flatMap.mpr ⟨fun e _ => ?_, table.inKeyOrder.imp fun {a b} below => ?_⟩
  · exact List.pairwise_map.mpr (List.pairwise_of_forall fun _ _ => String.le_refl e.1)
  · intro x hx y hy
    obtain ⟨_, _, rfl⟩ := List.mem_map.mp hx
    obtain ⟨_, _, rfl⟩ := List.mem_map.mp hy
    exact below

end Keyed

theorem filter_underKeys {α : Type} (entries : List (String × List α)) (key : String) :
    (underKeys entries).filter (fun item => item.1 = key) =
      ((entries.filter fun e => e.1 = key).flatMap (·.2)).map (key, ·) := by
  induction entries with
  | nil => rfl
  | cons e rest ih =>
    rw [underKeys, List.flatMap_cons, List.filter_append, ← underKeys, ih, List.filter_map,
      List.filter_cons]
    by_cases same : e.1 = key
    · have whole : e.2.filter (fun _ => true) = e.2 := List.filter_eq_self.mpr fun _ _ => rfl
      subst same
      simp [Function.comp_def, whole]
    · simp [Function.comp_def, same]

namespace SeriesRows

variable {entries : List SeriesRows}

theorem get?_collect (table : Keyed (List Json)) (s : SeriesRows) (name : String) :
    (collect table s).get? name =
      if name = s.name then some ((table.get? name).getD [] ++ s.points) else table.get? name := by
  rw [collect, Keyed.alter, Keyed.get?_insert]
  by_cases same : name = s.name
  · rw [if_pos same, if_pos same, same]
  · rw [if_neg same, if_neg same]

theorem mem_keys_foldl_collect {table : Keyed (List Json)} {name : String} :
    name ∈ (entries.foldl collect table).keys ↔
      name ∈ table.keys ∨ ∃ s ∈ entries, s.name = name := by
  induction entries generalizing table with
  | nil => simp
  | cons s rest ih =>
    have first : name ∈ (collect table s).keys ↔ name ∈ table.keys ∨ s.name = name := by
      rw [Keyed.mem_keys_iff, Keyed.mem_keys_iff, get?_collect]
      by_cases same : name = s.name
      · simp [same]
      · simp [same, Ne.symm same]
    rw [List.foldl_cons, ih, first]
    simp [or_assoc]

/-- A name has what it had before and then the points of its entries, in the order they came. -/
theorem getD_foldl_collect (entries : List SeriesRows) (table : Keyed (List Json))
    (name : String) :
    ((entries.foldl collect table).get? name).getD [] =
      (table.get? name).getD [] ++ (entries.filter fun s => s.name = name).flatMap points := by
  induction entries generalizing table with
  | nil => simp
  | cons s rest ih =>
    rw [List.foldl_cons, ih, get?_collect, List.filter_cons]
    by_cases same : name = s.name
    · simp [same]
    · simp [same, Ne.symm same]

/-- The entries with their points, each under its series. -/
theorem alike_collected (entries : List SeriesRows) :
    AlikeByKey (underKeys (entries.foldl collect .empty).entries)
      (underKeys (entries.map fun s => (s.name, s.points))) := by
  intro name
  rw [filter_underKeys, filter_underKeys, Keyed.filter_entries, List.filter_map, List.flatMap_map]
  have collected := getD_foldl_collect entries .empty name
  congr 1
  rw [← List.nil_append (List.flatMap _ _)]
  refine Eq.trans ?_ collected
  cases (entries.foldl collect .empty).get? name <;> simp

theorem points_eq_sorted (entries : List SeriesRows) :
    (response entries).allPoints =
      (sortByKey (underKeys (entries.map fun s => (s.name, s.points)))).map (·.2) := by
  rw [← (Keyed.inKeyOrder_underKeys _).eq_sortByKey (alike_collected entries),
    Keyed.map_underKeys]
  rfl

/-- The last entry of a key, told by its place. -/
theorem exists_last_iff {cells : List (String × Json)} {key : String} {value : Json} :
    (∃ before after, cells = before ++ (key, value) :: after ∧ key ∉ after.map (·.1)) ↔
      ∃ i : Nat, cells[i]? = some (key, value) ∧
        ∀ (j : Nat) (other : Json), i < j → cells[j]? ≠ some (key, other) := by
  constructor
  · rintro ⟨before, after, rfl, fresh⟩
    refine ⟨before.length, by simp, fun j other later again => fresh ?_⟩
    have beyond : (before ++ [(key, value)]).length ≤ j := by simpa using Nat.succ_le_of_lt later
    rw [List.append_cons, List.getElem?_append_right beyond] at again
    exact List.mem_map.mpr ⟨_, List.mem_of_getElem? again, rfl⟩
  · rintro ⟨i, found, last⟩
    obtain ⟨short, cell⟩ := List.getElem?_eq_some_iff.mp found
    refine ⟨cells.take i, cells.drop (i + 1), ?_, fun mem => ?_⟩
    · rw [← cell, List.getElem_cons_drop, List.take_append_drop]
    · obtain ⟨⟨_, other⟩, later, rfl⟩ := List.mem_map.mp mem
      obtain ⟨k, again⟩ := List.mem_iff_getElem?.mp later
      rw [List.getElem?_drop] at again
      exact last (i + 1 + k) other (by omega) again

/-- The cell of a column is the last one under it that the row has. -/
theorem get?_zip_eq_some_iff {columns : List String} {row : List Json} {column : String}
    {value : Json} :
    (Keyed.ofList (columns.zip row)).get? column = some value ↔
      ∃ i, columns[i]? = some column ∧ row[i]? = some value ∧
        ∀ j, i < j → j < row.length → columns[j]? ≠ some column := by
  rw [Keyed.get?_ofList_eq_some_iff, exists_last_iff]
  simp only [ne_eq, List.getElem?_zip_eq_some, and_assoc]
  refine exists_congr fun i => and_congr_right fun _ => and_congr_right fun _ => ?_
  constructor
  · intro last j later short again
    exact last j row[j] later ⟨again, List.getElem?_eq_getElem short⟩
  · rintro last j other later ⟨again, held⟩
    exact last j later (List.getElem?_eq_some_iff.mp held).1 again

/-- Whatever the entries are, a response has one point for each row: those of all rows, sorted by
series, and those of one series in the order they came. A point has the columns that the row
reaches, each with its last cell. A series without rows is known all the same, and the response is
empty exactly if no entry has a row. -/
theorem response_keeps_rows (entries : List SeriesRows) :
    let rows := entries.flatMap fun s => s.rows.map fun row => (s.name, point s.columns row)
    (response entries).allPoints = (sortByKey rows).map (·.2) ∧
    (response entries).pointsInPlace = (response entries).allPoints ∧
    (response entries).allPoints.length = (entries.flatMap (·.rows)).length ∧
    (∀ columns row, ∃ object : Keyed Json, point columns row = .object object ∧
      ∀ column value, object.get? column = some value ↔
        ∃ i, columns[i]? = some column ∧ row[i]? = some value ∧
          ∀ j, i < j → j < row.length → columns[j]? ≠ some column) ∧
    (∃ table, response entries = .series table ∧
      ∀ name, name ∈ table.keys ↔ ∃ s ∈ entries, s.name = name) ∧
    ((response entries).isEmpty = true ↔ ∀ s ∈ entries, s.rows = []) := by
  intro rows
  have named : underKeys (entries.map fun s => (s.name, s.points)) = rows := by
    simp only [underKeys, List.flatMap_map, points, List.map_map, Function.comp_def, rows]
  have sorted : (response entries).allPoints = (sortByKey rows).map (·.2) :=
    named ▸ points_eq_sorted entries
  have counted : (response entries).allPoints.length = (entries.flatMap (·.rows)).length := by
    rw [sorted, List.length_map, sortByKey, List.length_mergeSort, List.length_flatMap,
      List.length_flatMap]
    simp only [List.length_map]
  refine ⟨sorted, Response.pointsInPlace_eq _, counted, ?_, ?_, ?_⟩
  · exact fun columns row => ⟨_, rfl, fun column value => get?_zip_eq_some_iff⟩
  · exact ⟨_, rfl, fun name => mem_keys_foldl_collect.trans (or_iff_right nofun)⟩
  · rw [Response.isEmpty_iff, ← List.length_eq_zero_iff, counted, List.length_eq_zero_iff,
      List.flatMap_eq_nil_iff]

example :
    let late : SeriesRows := ⟨"ram", ["load", "host", "load"], [[.int 1, .null, .int 2, .int 3]]⟩
    let early : SeriesRows := ⟨"cpu", ["load"], [[.int 4], []]⟩
    (response [late, early, ⟨"disk", [], []⟩, { late with columns := [] }]).allPoints =
      [.obj [("load", .int 4)], .obj [], .obj [("host", .null), ("load", .int 2)], .obj []] :=
  rfl

end SeriesRows

end Telemetry
