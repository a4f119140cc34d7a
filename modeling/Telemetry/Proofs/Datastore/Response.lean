import Telemetry.Datastore
import Telemetry.Proofs.Keyed.Lookup

/-!
# Reading responses

A document is a response if it is an object with an array `points`, or an object that holds nothing
but arrays. The two overlap, and the array `points` decides: whatever stands beside it is dropped.
So a response that is written and read again is the same, unless one of its series is named
`points`: then the points of this series are all that is left.
-/

namespace Telemetry

theorem Json.items?_eq_some_iff {d : Json} {items : List Json} :
    d.items? = some items ↔ d = .arr items := by
  cases d <;> simp [items?]

namespace Response

/-- A series as a member of a document. -/
def asMember (entry : String × List Json) : String × Json :=
  (entry.1, .arr entry.2)

theorem toJson_series (table : Keyed (List Json)) :
    (series table).toJson = .obj (table.entries.map asMember) :=
  rfl

theorem lookup_asMember (entries : List (String × List Json)) (key : String) :
    (entries.map asMember).lookup key = (entries.lookup key).map .arr := by
  induction entries with
  | nil => rfl
  | cons entry rest ih =>
    rw [List.map_cons, asMember, lookup_cons_eq_ite, lookup_cons_eq_ite, ih]
    by_cases same : key = entry.1
    · rw [if_pos same, if_pos same, Option.map_some]
    · rw [if_neg same, if_neg same]

theorem ascending_asMember {entries : List (String × List Json)} :
    Ascending (entries.map asMember) ↔ Ascending entries :=
  List.pairwise_map

theorem arrays?_eq_some_iff {members : List (String × Json)}
    {entries : List (String × List Json)} :
    arrays? members = some entries ↔ members = entries.map asMember := by
  unfold arrays?
  induction members generalizing entries with
  | nil => simp [eq_comm]
  | cons member rest ih =>
    rw [List.mapM_cons]
    constructor
    · intro read
      obtain ⟨entry, first, read⟩ := Option.bind_eq_some_iff.mp read
      obtain ⟨later, others, read⟩ := Option.bind_eq_some_iff.mp read
      obtain ⟨items, array, rfl⟩ := Option.map_eq_some_iff.mp first
      rw [← Option.some.inj read, List.map_cons, ← ih.mp others, asMember,
        ← Json.items?_eq_some_iff.mp array]
    · intro written
      cases entries with
      | nil => cases written
      | cons entry later =>
        obtain ⟨rfl, others⟩ := List.cons.inj written
        rw [ih.mpr others]
        rfl

theorem arrays?_isSome_iff {members : List (String × Json)} :
    (arrays? members).isSome = true ↔ ∀ member ∈ members, ∃ items, member.2 = .arr items := by
  rw [Option.isSome_iff_exists]
  constructor
  · rintro ⟨entries, read⟩ member mem
    rw [arrays?_eq_some_iff.mp read] at mem
    obtain ⟨entry, -, rfl⟩ := List.mem_map.mp mem
    exact ⟨entry.2, rfl⟩
  · intro arrays
    induction members with
    | nil => exact ⟨[], rfl⟩
    | cons member rest ih =>
      obtain ⟨items, array⟩ := arrays member List.mem_cons_self
      obtain ⟨entries, read⟩ := ih fun other mem => arrays other (List.mem_cons_of_mem _ mem)
      refine ⟨(member.1, items) :: entries, arrays?_eq_some_iff.mpr ?_⟩
      rw [List.map_cons, ← arrays?_eq_some_iff.mp read, asMember, ← array]

theorem ofJson?_of_points {members : List (String × Json)} {items : List Json}
    (h : Json.member? members "points" = some (.arr items)) :
    ofJson? (.obj members) = some (.points items) := by
  rw [ofJson?, h]

theorem ofJson?_of_pointless {members : List (String × Json)}
    (h : ∀ items, Json.member? members "points" ≠ some (.arr items)) :
    ofJson? (.obj members) = (arrays? members).map fun entries => series (.ofList entries) := by
  rw [ofJson?]
  split
  · rename_i items found
    exact absurd found (h items)
  · rfl

theorem ofJson?_isSome_iff {d : Json} :
    (ofJson? d).isSome = true ↔ ∃ members, d = .obj members ∧
      ((∃ items, Json.member? members "points" = some (.arr items)) ∨
        ∀ member ∈ members, ∃ items, member.2 = .arr items) := by
  cases d with
  | obj members =>
    by_cases points : ∃ items, Json.member? members "points" = some (.arr items)
    · obtain ⟨items, found⟩ := points
      rw [ofJson?_of_points found]
      exact ⟨fun _ => ⟨members, rfl, Or.inl ⟨items, found⟩⟩, fun _ => rfl⟩
    · rw [ofJson?_of_pointless (not_exists.mp points), Option.isSome_map, arrays?_isSome_iff]
      constructor
      · exact fun arrays => ⟨members, rfl, Or.inr arrays⟩
      · rintro ⟨_, same, found | arrays⟩
        · exact absurd (Json.obj.inj same ▸ found) points
        · exact Json.obj.inj same ▸ arrays
  | _ => simp [ofJson?]

/-- Without an array `points` the members of a document are the series of its response. -/
theorem ofJson?_object_eq_some_iff {document : Keyed Json}
    (h : ∀ items, document.get? "points" ≠ some (.arr items)) {r : Response} :
    ofJson? (.object document) = some r ↔
      ∃ table, r = series table ∧ Json.object document = (series table).toJson := by
  rw [Json.object, ofJson?_of_pointless h, Option.map_eq_some_iff]
  constructor
  · rintro ⟨entries, read, rfl⟩
    have members := arrays?_eq_some_iff.mp read
    have ascending : Ascending entries :=
      ascending_asMember.mp (members ▸ document.ascending)
    refine ⟨.ofList entries, rfl, ?_⟩
    rw [toJson_series, Keyed.entries_ofList ascending, ← members]
  · rintro ⟨table, rfl, same⟩
    refine ⟨table.entries, arrays?_eq_some_iff.mpr (Json.obj.inj same), ?_⟩
    rw [Keyed.ext (Keyed.entries_ofList table.ascending)]

theorem ofJson?_toJson_points (items : List Json) :
    ofJson? (points items).toJson = some (.points items) :=
  ofJson?_of_points rfl

theorem ofJson?_toJson_series (table : Keyed (List Json)) :
    ofJson? (series table).toJson =
      some (match table.get? "points" with
        | some items => .points items
        | none => series table) := by
  have found : Json.member? (table.entries.map asMember) "points" =
      (table.get? "points").map .arr :=
    lookup_asMember table.entries "points"
  cases given : table.get? "points" with
  | some items =>
    rw [given] at found
    exact ofJson?_of_points found
  | none =>
    rw [given] at found
    have pointless (items : List Json) :
        Json.member? (table.entries.map asMember) "points" ≠ some (.arr items) := by
      rw [found]
      exact nofun
    rw [toJson_series, ofJson?_of_pointless pointless, arrays?_eq_some_iff.mpr rfl,
      Option.map_some, Keyed.ext (Keyed.entries_ofList table.ascending)]

theorem ofJson?_toJson_eq_iff {r : Response} :
    ofJson? r.toJson = some r ↔ ∀ table, r = series table → "points" ∉ table.keys := by
  cases r with
  | points items => exact ⟨fun _ _ same => (nomatch same), fun _ => ofJson?_toJson_points items⟩
  | series table =>
    rw [ofJson?_toJson_series]
    cases given : table.get? "points" with
    | some items =>
      refine ⟨fun same => (nomatch same), fun apart => ?_⟩
      exact absurd (Keyed.mem_keys_iff.mpr (by rw [given]; rfl)) (apart table rfl)
    | none =>
      refine ⟨fun _ other same => ?_, fun _ => rfl⟩
      obtain rfl := Response.series.inj same
      rw [Keyed.mem_keys_iff, given]
      exact Bool.false_ne_true

theorem pointsInPlace_eq (r : Response) : r.pointsInPlace = r.allPoints := by
  cases r with
  | points items => rfl
  | series table =>
    rw [pointsInPlace, allPoints, Keyed.values, List.flatMap_def]

theorem isEmpty_iff {r : Response} : r.isEmpty = true ↔ r.allPoints = [] := by
  cases r with
  | points items => exact List.isEmpty_iff
  | series table =>
    rw [isEmpty, allPoints, List.all_eq_true, List.flatten_eq_nil_iff]
    simp only [List.isEmpty_iff]

/-- A document is a response exactly if it has an array `points`, which then is all of the response,
or holds nothing but arrays, which then are its series. A response is read back as it was written
but for one with a series `points`. The points are the same however they are taken, and a response
is empty when there are none. -/
theorem read_document :
    (∀ d, (ofJson? d).isSome = true ↔ ∃ members, d = .obj members ∧
      ((∃ items, Json.member? members "points" = some (.arr items)) ∨
        ∀ member ∈ members, ∃ items, member.2 = .arr items)) ∧
    (∀ members items, Json.member? members "points" = some (.arr items) →
      ofJson? (.obj members) = some (.points items)) ∧
    (∀ document : Keyed Json, (∀ items, document.get? "points" ≠ some (.arr items)) →
      ∀ r, ofJson? (.object document) = some r ↔
        ∃ table, r = series table ∧ Json.object document = (series table).toJson) ∧
    (∀ r, ofJson? r.toJson = some r ↔ ∀ table, r = series table → "points" ∉ table.keys) ∧
    (∀ (table : Keyed (List Json)) (items : List Json), table.get? "points" = some items →
      ofJson? (series table).toJson = some (.points items)) ∧
    ∀ r : Response, r.pointsInPlace = r.allPoints ∧ (r.isEmpty = true ↔ r.allPoints = []) := by
  refine ⟨fun _ => ofJson?_isSome_iff, fun _ _ => ofJson?_of_points,
    fun _ pointless _ => ofJson?_object_eq_some_iff pointless, fun _ => ofJson?_toJson_eq_iff, ?_,
    fun r => ⟨r.pointsInPlace_eq, isEmpty_iff⟩⟩
  intro table items given
  rw [ofJson?_toJson_series, given]

example :
    let r := series (.ofList [("cpu", [.null]), ("points", []), ("ram", [])])
    ofJson? r.toJson = some (points []) ∧ r.isEmpty = false :=
  ⟨rfl, rfl⟩

end Response

end Telemetry
