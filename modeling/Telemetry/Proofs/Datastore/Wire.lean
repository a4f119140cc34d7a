import Telemetry.Datastore.Rows
import Telemetry.Proofs.Point.Split

/-!
# A point on the wire

A point is sent as one row with a column for each of its values, its tags and its time, and a row
that is read becomes an object again. Values and tags never share a column. The time has a column
that an attribute may have too: then the columns are not distinct, and the object holds the time
under this name and not the attribute. Otherwise the object is the point, with nothing lost and
nothing more than its time.
-/

namespace Telemetry

/-- The columns of a payload, each with what stands under it. -/
def Payload.cells (payload : Payload) : List (String × Json) :=
  payload.values.entries ++ payload.tags.entries ++
    (payload.timestamp.map fun t => ("time", Json.int t)).toList

/-- The object that a payload is read back as. -/
def Payload.object (payload : Payload) : Keyed Json :=
  .ofList payload.cells

namespace SeriesRows

theorem columns_ofPayload (series : String) (payload : Payload) :
    (ofPayload series payload).columns = payload.cells.map (·.1) :=
  rfl

theorem rows_ofPayload (series : String) (payload : Payload) :
    (ofPayload series payload).rows = [payload.cells.map (·.2)] :=
  rfl

theorem response_ofPayload (series : String) (payload : Payload) :
    response [ofPayload series payload] =
      .series (.ofList [(series, [.object payload.object])]) := by
  have read : point (payload.cells.map (·.1)) (payload.cells.map (·.2)) =
      .object payload.object := by
    rw [point, List.zip_map', Payload.object, List.map_id']
  have points : (ofPayload series payload).points = [.object payload.object] := by
    rw [SeriesRows.points, columns_ofPayload, rows_ofPayload, List.map_singleton, read]
  rw [response, List.foldl_cons, collect, points]
  rfl

end SeriesRows

/-- An object has the time of its payload, and else what the tags or the values have. -/
theorem Payload.get?_object (payload : Payload) (key : String) :
    payload.object.get? key =
      (if key = "time" then payload.timestamp.map Json.int else none).or
        ((payload.tags.get? key).or (payload.values.get? key)) := by
  have time : (payload.timestamp.map fun t => ("time", Json.int t)).toList.reverse.lookup key =
      if key = "time" then payload.timestamp.map Json.int else none := by
    cases payload.timestamp with
    | none => simp
    | some t => exact lookup_cons_eq_ite "time" (Json.int t) [] key
  rw [object, Keyed.get?_ofList, cells, List.reverse_append, List.reverse_append,
    List.lookup_append, List.lookup_append, time, lookup_reverse payload.tags.nodup_keys,
    lookup_reverse payload.values.nodup_keys]
  rfl

theorem Keyed.Splits.mem_keys_iff {α : Type} {whole left right : Keyed α}
    (h : whole.Splits left right) {key : String} :
    key ∈ whole.keys ↔ key ∈ left.keys ∨ key ∈ right.keys := by
  rw [Keyed.mem_keys_iff, h.joined, Option.isSome_or, Bool.or_eq_true_iff, Keyed.mem_keys_iff,
    Keyed.mem_keys_iff]

theorem Keyed.Splits.not_mem_of_mem {α : Type} {whole left right : Keyed α}
    (h : whole.Splits left right) {key : String} (mem : key ∈ left.keys) : key ∉ right.keys := by
  rw [Keyed.mem_keys_iff] at mem ⊢
  rcases h.apart key with absent | absent
  · rw [absent] at mem
    cases mem
  · rw [absent]
    exact Bool.false_ne_true

/-- Values and tags have columns of their own, only the time may have that of another. -/
theorem Payload.nodup_columns_iff {payload : Payload} {whole : Keyed Json}
    (splits : whole.Splits payload.tags payload.values) :
    (payload.cells.map (·.1)).Nodup ↔
      (payload.timestamp.isSome = true → "time" ∉ whole.keys) := by
  have attributes : (payload.values.keys ++ payload.tags.keys).Nodup := by
    refine List.nodup_append.mpr ⟨payload.values.nodup_keys, payload.tags.nodup_keys, ?_⟩
    rintro name valued _ tagged rfl
    exact splits.not_mem_of_mem tagged valued
  have known : "time" ∈ whole.keys ↔ "time" ∈ payload.values.keys ++ payload.tags.keys := by
    rw [splits.mem_keys_iff, List.mem_append, or_comm]
  have columns : payload.cells.map (·.1) = (payload.values.keys ++ payload.tags.keys) ++
      (payload.timestamp.map fun _ => "time").toList := by
    rw [cells, List.map_append, List.map_append]
    cases payload.timestamp <;> rfl
  rw [columns, known]
  cases payload.timestamp with
  | none => simp [attributes]
  | some t =>
    rw [List.nodup_append, and_iff_right attributes]
    constructor
    · rintro ⟨-, apart⟩ - mem
      exact apart "time" mem "time" List.mem_cons_self rfl
    · intro clear
      refine ⟨List.pairwise_singleton _ "time", ?_⟩
      rintro name mem _ time rfl
      rw [List.mem_singleton.mp time] at mem
      exact clear rfl mem

namespace Point

variable {series : Series} {declarations : List Declaration} {p : Point}

/-- The object of a point has its time, and its attributes where the time is not. -/
theorem get?_object (splits : p.attributes.Splits p.tags p.values) (precision : Precision)
    (key : String) :
    (p.payload precision).object.get? key =
      (if key = "time" then p.time.map fun t => Json.int (precision.scale t) else none).or
        (p.attributes.get? key) := by
  rw [Payload.get?_object, splits.joined, payload, Option.map_map]
  rfl

/-- An unwritten point can be encoded, and its row is read back as one object under the name it was
sent to. The columns are distinct unless the point has a time and an attribute of that name. Then
the object has the time there, and the value of the attribute is lost; otherwise it has what the
point has, and nothing else. -/
theorem read_of_sent (reachable : p.Reachable (.ofDeclarations series declarations))
    (unwritten : p.persisted = false) (precision : Precision) (name : String) :
    ∃ payload, p.encode precision = .ok payload ∧
      let sent := SeriesRows.ofPayload name payload
      let overwritten : Prop := p.time.isSome = true ∧ "time" ∈ p.attributes.keys
      sent.name = name ∧
      (∃ row, sent.rows = [row] ∧ row.length = sent.columns.length) ∧
      (sent.columns.Nodup ↔ ¬ overwritten) ∧
      ∃ object : Keyed Json,
        SeriesRows.response [sent] = .series (.ofList [(name, [.object object])]) ∧
        (∀ t, p.time = some t → object.get? "time" = some (.int (precision.scale t))) ∧
        (¬ overwritten → ∀ key value, object.get? key = some value ↔
          p.attributes.get? key = some value ∨
            key = "time" ∧ ∃ t, p.time = some t ∧ value = .int (precision.scale t)) := by
  obtain ⟨declared, measurement⟩ := reachable.declared
  have declares := Measurement.declares_ofDeclarations series declarations
  have splits : p.attributes.Splits p.tags p.values :=
    splits_of_declared declared (measurement ▸ declares.apart)
  have payloadSplits : p.attributes.Splits (p.payload precision).tags
      (p.payload precision).values := splits
  refine ⟨p.payload precision, encode_of_unwritten unwritten precision, rfl, ?_, ?_,
    (p.payload precision).object, SeriesRows.response_ofPayload name _, ?_, ?_⟩
  · exact ⟨_, SeriesRows.rows_ofPayload name _, by
      rw [SeriesRows.columns_ofPayload, List.length_map, List.length_map]⟩
  · rw [SeriesRows.columns_ofPayload, Payload.nodup_columns_iff payloadSplits, not_and, payload,
      Option.isSome_map]
  · intro t timed
    rw [get?_object splits, if_pos rfl, timed]
    rfl
  · intro clear key value
    rw [get?_object splits, Option.or_eq_some_iff]
    by_cases time : key = "time"
    · subst time
      rw [if_pos rfl]
      cases timed : p.time with
      | none => simp
      | some t =>
        have absent : p.attributes.get? "time" = none := by
          rw [← Option.not_isSome_iff_eq_none, ← Keyed.mem_keys_iff]
          exact fun mem => clear ⟨by rw [timed]; rfl, mem⟩
        simp [absent, eq_comm]
    · simp [time]

theorem read_of_sent_timed :
    let m := Measurement.ofDeclarations (.name "cpu") [.values ["load"], .tags ["host"]]
    let labelled := ((new m).handle (.act (.set "host" (.str "a")))).point
    let p := (labelled.handle (.act (.stamp ⟨1, 500000000⟩))).point
    p.Reachable m ∧ p.persisted = false ∧
      ∃ (payload : Payload) (object : Keyed Json), p.encode .milliseconds = .ok payload ∧
        (SeriesRows.ofPayload "cpu" payload).columns.Nodup ∧
        SeriesRows.response [SeriesRows.ofPayload "cpu" payload] =
          .series (.ofList [("cpu", [.object object])]) ∧
        object.get? "host" = some (.str "a") ∧ object.get? "time" = some (.int 1500) := by
  intro m labelled p
  have reachable : p.Reachable m := .handle (.handle .new _) _
  obtain ⟨payload, encoded, -, -, distinct, object, read, timed, whole⟩ :=
    read_of_sent reachable rfl .milliseconds "cpu"
  have clear : ¬ (p.time.isSome = true ∧ "time" ∈ p.attributes.keys) := by
    rintro ⟨-, mem⟩
    exact absurd (Keyed.mem_keys_iff.mp mem) (by decide)
  exact ⟨reachable, rfl, payload, object, encoded, distinct.mpr clear, read,
    (whole clear "host" _).mpr (Or.inl rfl), timed ⟨1, 500000000⟩ rfl⟩

/-- An attribute may have the name of the time: its column stands twice, and what it has is lost. -/
theorem attribute_lost_to_time :
    let m := Measurement.ofDeclarations (.name "cpu") [.values ["time"]]
    let p := (((new m).handle (.act (.set "time" (.int 5)))).point.handle
      (.act (.stamp ⟨1, 0⟩))).point
    p.Reachable m ∧ p.attributes.get? "time" = some (.int 5) ∧
      ∃ payload, p.encode .seconds = .ok payload ∧
        (SeriesRows.ofPayload "cpu" payload).columns = ["time", "time"] ∧
        SeriesRows.response [SeriesRows.ofPayload "cpu" payload] =
          .series (.ofList [("cpu", [.obj [("time", .int 1)]])]) := by
  intro m p
  exact ⟨.handle (.handle .new _) _, rfl, _, rfl, rfl, rfl⟩

end Point

end Telemetry
