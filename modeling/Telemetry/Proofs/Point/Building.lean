import Telemetry.Proofs.Keyed.Sorting
import Telemetry.Proofs.Point.Split
import Telemetry.Relation.Run

/-!
# Building points from pairs

A point is built of pairs of names and values if all names are declared, and then it holds what was
given last under each name, whatever the order of different names. Otherwise the first name that is
not declared is refused, with the series of the point as the pairs before it have made it, and
relations refuse it before any datastore is asked.
-/

namespace Telemetry

namespace Point

/-- The fresh point that holds some pairs. -/
def holding (m : Measurement) (pairs : List (String × Json)) : Point :=
  { new m with attributes := .ofList pairs }

variable {m : Measurement} {pairs : List (String × Json)}

theorem setAll_of_declared {p : Point}
    (declared : ∀ pair ∈ pairs, p.measurement.isAttribute pair.1 = true) :
    pairs.foldlM (fun p pair => p.set pair.1 pair.2) p = (.ok { p with
      attributes := pairs.foldl (fun table e => table.insert e.1 e.2) p.attributes } :
        Except Fault Point) := by
  induction pairs generalizing p with
  | nil => rfl
  | cons pair rest ih =>
    have first : p.set pair.1 pair.2 = .ok { p with toSample := p.toSample.set pair.1 pair.2 } :=
      if_pos (declared pair List.mem_cons_self)
    rw [List.foldlM_cons, first]
    exact ih fun other mem => declared other (List.mem_cons_of_mem pair mem)

theorem ofAttributes_of_declared (declared : ∀ pair ∈ pairs, m.isAttribute pair.1 = true) :
    ofAttributes m pairs = .ok (holding m pairs) :=
  setAll_of_declared (p := new m) declared

theorem ofAttributes_of_undeclared {before after : List (String × Json)} {name : String}
    {value : Json} (declared : ∀ pair ∈ before, m.isAttribute pair.1 = true)
    (undeclared : m.isAttribute name = false) :
    ofAttributes m (before ++ (name, value) :: after) =
      .error (.unknownAttribute (holding m before).series name) := by
  have built := ofAttributes_of_declared declared
  unfold ofAttributes at built
  have refused := set_of_undeclared (p := holding m before) undeclared value
  rw [ofAttributes, List.foldlM_append, built]
  change ((name, value) :: after).foldlM (fun p pair => p.set pair.1 pair.2) (holding m before) = _
  rw [List.foldlM_cons, refused]
  rfl

/-- Either all names are declared or there is a first one that is not. -/
theorem declared_or_first_undeclared (m : Measurement) (pairs : List (String × Json)) :
    (∀ pair ∈ pairs, m.isAttribute pair.1 = true) ∨
      ∃ before name value after, pairs = before ++ (name, value) :: after ∧
        (∀ pair ∈ before, m.isAttribute pair.1 = true) ∧ m.isAttribute name = false := by
  cases found : pairs.find? fun pair => !m.isAttribute pair.1 with
  | none =>
    refine Or.inl fun pair mem => ?_
    simpa using List.find?_eq_none.mp found pair mem
  | some pair =>
    obtain ⟨undeclared, before, after, split, declared⟩ := List.find?_eq_some_iff_append.mp found
    refine Or.inr ⟨before, pair.1, pair.2, after, split, fun other mem => ?_, ?_⟩
    · simpa using declared other mem
    · simpa using undeclared

theorem ofAttributes_eq_ok_iff {p : Point} :
    ofAttributes m pairs = .ok p ↔
      (∀ pair ∈ pairs, m.isAttribute pair.1 = true) ∧ p = holding m pairs := by
  rcases declared_or_first_undeclared m pairs with
    declared | ⟨before, name, value, after, rfl, declared, undeclared⟩
  · rw [ofAttributes_of_declared declared, Except.ok.injEq, eq_comm]
    exact (and_iff_right declared).symm
  · rw [ofAttributes_of_undeclared declared undeclared]
    refine iff_of_false nofun fun h => ?_
    rw [h.1 (name, value) (by simp)] at undeclared
    cases undeclared

theorem ofAttributes_eq_error_iff {fault : Fault} :
    ofAttributes m pairs = .error fault ↔
      ∃ before name value after, pairs = before ++ (name, value) :: after ∧
        (∀ pair ∈ before, m.isAttribute pair.1 = true) ∧ m.isAttribute name = false ∧
        fault = .unknownAttribute (holding m before).series name := by
  constructor
  · intro refused
    rcases declared_or_first_undeclared m pairs with
      declared | ⟨before, name, value, after, split, declared, undeclared⟩
    · rw [ofAttributes_of_declared declared] at refused
      cases refused
    · rw [split, ofAttributes_of_undeclared declared undeclared] at refused
      exact ⟨before, name, value, after, split, declared, undeclared,
        (Except.error.inj refused).symm⟩
  · rintro ⟨before, name, value, after, rfl, declared, undeclared, rfl⟩
    exact ofAttributes_of_undeclared declared undeclared

theorem ofAttributes_of_alike {p : Point} (built : ofAttributes m pairs = .ok p)
    {others : List (String × Json)} (alike : AlikeByKey others pairs) :
    ofAttributes m others = .ok p := by
  obtain ⟨declared, rfl⟩ := ofAttributes_eq_ok_iff.mp built
  rw [ofAttributes_of_declared fun pair mem => declared pair (alike.mem mem), holding, holding,
    Keyed.ofList_of_alike alike]

end Point

/-- What a datastore was asked for by a write that may not have come to an attempt. -/
def contacted {σ α : Type} : Except Fault (Attempt (Observed σ) α) → List Contact
  | .ok attempt => attempt.store.contacts
  | .error _ => []

theorem map_eq_error_iff {α β : Type} {f : α → β} {result : Except Fault α} {fault : Fault} :
    result.map f = .error fault ↔ result = .error fault := by
  cases result <;> simp [Except.map]

namespace Point

variable {m : Measurement} {pairs : List (String × Json)}

/-- A point can be built of pairs exactly if all their names are declared. It holds what was given
last under each name, and other pairs of the same names build the same point if what stands under
each name is the same. Otherwise the first undeclared name is refused, with the series of the point
that the pairs before it build. Relations build points so too, and what they cannot build they do
not write. -/
theorem built_of_pairs (m : Measurement) (pairs : List (String × Json)) :
    ((∃ p, ofAttributes m pairs = .ok p) ↔ ∀ pair ∈ pairs, m.isAttribute pair.1 = true) ∧
    (∀ p, ofAttributes m pairs = .ok p →
      p.measurement = m ∧ p.time = none ∧ p.persisted = false ∧
      (∀ name, name ∈ p.attributes.keys ↔ name ∈ pairs.map (·.1)) ∧
      (∀ name value, p.attributes.get? name = some value ↔
        ∃ before after, pairs = before ++ (name, value) :: after ∧ name ∉ after.map (·.1)) ∧
      ∀ others, AlikeByKey others pairs → ofAttributes m others = .ok p) ∧
    (∀ fault, ofAttributes m pairs = .error fault ↔
      ∃ before name value after held, pairs = before ++ (name, value) :: after ∧
        (∀ pair ∈ before, m.isAttribute pair.1 = true) ∧ m.isAttribute name = false ∧
        ofAttributes m before = .ok held ∧
        fault = .unknownAttribute (m.series.quoted (some held.toSample)) name) ∧
    ∀ r : Relation, r.measurement = m → ∀ fault,
      (r.build pairs = .error fault ↔ ofAttributes m pairs = .error fault) ∧
      ∀ {σ : Type} [Datastore σ] (passes : Nat) (store : σ),
        (r.write pairs passes store = .error fault ↔ ofAttributes m pairs = .error fault) ∧
        (r.writeStrict pairs passes store = .error fault ↔ ofAttributes m pairs = .error fault) ∧
        (ofAttributes m pairs = .error fault →
          contacted (r.write pairs passes (Observed.start store)) = [] ∧
          contacted (r.writeStrict pairs passes (Observed.start store)) = []) := by
  refine ⟨?_, fun p built => ?_, fun fault => ?_, ?_⟩
  · constructor
    · rintro ⟨p, built⟩
      exact (ofAttributes_eq_ok_iff.mp built).1
    · exact fun declared => ⟨_, ofAttributes_of_declared declared⟩
  · obtain ⟨-, rfl⟩ := ofAttributes_eq_ok_iff.mp built
    refine ⟨rfl, rfl, rfl, fun name => ?_, fun name value => Keyed.get?_ofList_eq_some_iff,
      fun others alike => ofAttributes_of_alike built alike⟩
    rw [holding, Keyed.mem_keys_iff, Keyed.get?_ofList, lookup_isSome_iff, List.map_reverse,
      List.mem_reverse]
  · rw [ofAttributes_eq_error_iff]
    constructor
    · rintro ⟨before, name, value, after, split, declared, undeclared, told⟩
      exact ⟨before, name, value, after, _, split, declared, undeclared,
        ofAttributes_of_declared declared, told⟩
    · rintro ⟨before, name, value, after, held, split, declared, undeclared, built, told⟩
      obtain ⟨-, rfl⟩ := ofAttributes_eq_ok_iff.mp built
      exact ⟨before, name, value, after, split, declared, undeclared, told⟩
  · rintro r rfl fault
    refine ⟨Iff.rfl, fun passes store => ⟨map_eq_error_iff, map_eq_error_iff, fun refused => ?_⟩⟩
    have unwritten : r.build pairs = .error fault := refused
    rw [Relation.write, Relation.writeStrict, unwritten]
    exact ⟨rfl, rfl⟩

/-- The refusal names the series as the pairs before it have made it. -/
example :
    let m := Measurement.ofDeclarations
      (.computed fun sample => match sample.bind (·.get? "host") with
        | some (.str host) => .name host
        | _ => .name "nowhere")
      [.tags ["host"]]
    ofAttributes m [("host", .str "a"), ("host", .str "b"), ("rack", .null), ("host", .null)] =
      .error (.unknownAttribute "\"b\"" "rack") :=
  rfl

end Point

end Telemetry
