import Telemetry.Proofs.Keyed.Lookup
import Telemetry.Proofs.Measurement.Declared
import Telemetry.Proofs.Point.Lifetime

/-!
# Tags and values split a point

A point never holds a name that its measurement does not declare: it is set to none, whether from
outside or by a hook, and nothing else adds names. As no name is declared as both, each attribute
is among the tags or among the values, in one of them only and with the value it has. What is
encoded of a point is split the same way.
-/

namespace Telemetry

/-- Two tables that share out the entries of a third. -/
structure Keyed.Splits {α : Type} (whole left right : Keyed α) : Prop where
  apart : ∀ key, left.get? key = none ∨ right.get? key = none
  joined : ∀ key, whole.get? key = (left.get? key).or (right.get? key)

namespace Point

/-- The points that come of a measurement: a fresh one or one built from attributes, whatever was
done with it, and its duplicates. -/
inductive Reachable (m : Measurement) : Point → Prop
  | new : Reachable m (new m)
  | ofAttributes {pairs : List (String × Json)} {p : Point}
      (built : Point.ofAttributes m pairs = .ok p) : Reachable m p
  | handle {p : Point} (reachable : Reachable m p) (handling : Handling) :
      Reachable m (p.handle handling).point
  | duplicate {p : Point} (reachable : Reachable m p) : Reachable m p.duplicate

/-- Every attribute is declared. -/
def Declared (p : Point) : Prop :=
  ∀ name ∈ p.attributes.keys, p.measurement.isAttribute name = true

variable {m : Measurement} {p : Point}

theorem set_of_undeclared {name : String} (undeclared : p.measurement.isAttribute name = false)
    (value : Json) : p.set name value = .error (.unknownAttribute p.series name) := by
  rw [set, undeclared, if_neg Bool.false_ne_true]

theorem act_of_undeclared {name : String} (undeclared : p.measurement.isAttribute name = false)
    (value : Json) :
    p.act (.set name value) = (p, some (.unknownAttribute p.series name)) := by
  rw [act, set_of_undeclared undeclared]

theorem Declared.set (h : p.Declared) {name : String} {value : Json} {changed : Point}
    (accepted : p.set name value = .ok changed) :
    changed.Declared ∧ changed.measurement = p.measurement := by
  unfold Point.set at accepted
  split at accepted
  · rename_i declared
    cases accepted
    refine ⟨fun other mem => ?_, rfl⟩
    change other ∈ (p.attributes.insert name value).keys at mem
    rw [Keyed.mem_keys_iff, Keyed.get?_insert] at mem
    by_cases same : other = name
    · exact same ▸ declared
    · rw [if_neg same] at mem
      exact h other (Keyed.mem_keys_iff.mpr mem)
  · cases accepted

theorem Declared.act (h : p.Declared) (action : Action) : (p.act action).1.Declared := by
  cases action with
  | stamp time => exact h
  | set name value =>
    rw [Point.act]
    split
    · rename_i changed accepted
      exact (h.set accepted).1
    · exact h

theorem declared_new (m : Measurement) : (new m).Declared := by
  intro name mem
  cases mem

theorem Declared.setAll (h : p.Declared) {pairs : List (String × Json)} {built : Point}
    (accepted : pairs.foldlM (fun p pair => p.set pair.1 pair.2) p = .ok built) :
    built.Declared ∧ built.measurement = p.measurement := by
  induction pairs generalizing p with
  | nil =>
    cases accepted
    exact ⟨h, rfl⟩
  | cons pair rest ih =>
    rw [List.foldlM_cons] at accepted
    cases first : p.set pair.1 pair.2 with
    | error fault =>
      rw [first] at accepted
      cases accepted
    | ok changed =>
      rw [first] at accepted
      obtain ⟨declared, measurement⟩ := h.set first
      obtain ⟨final, same⟩ := ih declared accepted
      exact ⟨final, same.trans measurement⟩

/-- A property of points that actions keep and that stays when the point is written. -/
structure Kept (P : Point → Prop) : Prop where
  act : ∀ {p : Point}, P p → ∀ action : Action, P (p.act action).1
  written : ∀ {p : Point}, P p → P p.written

namespace Kept

variable {P : Point → Prop} {σ : Type} [Datastore σ]

theorem actAll (kept : Kept P) (h : P p) (actions : List Action) : P (p.actAll actions).1 := by
  induction actions generalizing p with
  | nil => exact h
  | cons action rest ih => exact ih (kept.act h action)

theorem undergo (kept : Kept P) (h : P p) (hooks : List Hook) :
    P (hooks.foldl Point.undergo p) := by
  induction hooks generalizing p with
  | nil => exact h
  | cons hook rest ih => exact ih (kept.actAll h (hook.actions p.toSample))

theorem send (kept : Kept P) (h : P p) (passes : Nat) (store : σ) :
    P (p.send passes store).point := by
  have readied : P p.readied := kept.undergo h p.measurement.before
  refine send_cases (fun _ _ => ?_) (fun _ _ _ _ _ => ?_) fun _ _ _ _ => ?_
  · exact readied
  · exact readied
  · exact kept.undergo (kept.written readied) p.measurement.after

theorem write (kept : Kept P) (h : P p) (passes : Nat) (store : σ) :
    P (p.write passes store).point := by
  refine write_cases (fun _ => ?_) (fun _ _ => ?_) fun _ _ => ?_
  · exact h
  · exact h
  · exact kept.send h (passes + 1) store

theorem writeStrict (kept : Kept P) (h : P p) (passes : Nat) (store : σ) :
    P (p.writeStrict passes store).point := by
  by_cases valid : p.failures (passes + 1) = []
  · rw [(writeStrict_of_valid valid store).1]
    exact kept.write h (passes + 1) store
  · rw [writeStrict_of_failures valid]
    exact h

end Kept

theorem kept_declared : Kept Declared :=
  ⟨fun h action => h.act action, fun h => h⟩

/-- A turn changes what hooks do, not what is declared. -/
theorem Declared.ofTurn {q : Point} (h : q.Declared) (turn : Turn)
    (same : q.measurement = p.measurement.inTurn turn) :
    { q with measurement := p.measurement }.Declared := by
  intro name mem
  have declared := h name mem
  rw [same] at declared
  exact declared

theorem Declared.handle (h : p.Declared) (handling : Handling) :
    (p.handle handling).point.Declared := by
  have inTurn (turn : Turn) : (p.inTurn turn).Declared := h
  cases handling with
  | act action => exact h.act action
  | write turn store =>
    have kept := kept_declared.write (inTurn turn) turn.passes (Observed.start store)
    refine kept.ofTurn turn ?_
    exact ((p.inTurn turn).write_accounts turn.passes store).measurement
  | writeStrict turn store =>
    have kept := kept_declared.writeStrict (inTurn turn) turn.passes (Observed.start store)
    refine kept.ofTurn turn ?_
    exact ((p.inTurn turn).writeStrict_accounts turn.passes store).measurement

theorem Reachable.declared (h : p.Reachable m) : p.Declared ∧ p.measurement = m := by
  induction h with
  | new => exact ⟨declared_new m, rfl⟩
  | ofAttributes built => exact (declared_new m).setAll built
  | handle _ handling ih =>
    exact ⟨ih.1.handle handling, (handle_accounts _ handling).measurement.trans ih.2⟩
  | duplicate _ ih => exact ih

theorem splits_of_declared (declared : p.Declared)
    (apart : ∀ name, p.measurement.isTag name = true → p.measurement.isValue name = false) :
    p.attributes.Splits p.tags p.values := by
  constructor
  · intro name
    rw [tags, values, Keyed.get?_filter, Keyed.get?_filter]
    cases tagged : p.measurement.isTag name with
    | false => exact Or.inl rfl
    | true => exact Or.inr (by rw [apart name tagged]; rfl)
  · intro name
    rw [tags, values, Keyed.get?_filter, Keyed.get?_filter]
    cases held : p.attributes.get? name with
    | none => simp
    | some value =>
      have known := declared name (Keyed.mem_keys_iff.mpr (by rw [held]; rfl))
      rcases Measurement.isAttribute_iff.mp known with tagged | valued
      · rw [if_pos tagged]
        rfl
      · cases tagged : p.measurement.isTag name with
        | false => rw [if_neg Bool.false_ne_true, if_pos valued]; rfl
        | true => rfl

theorem encode_splits {precision : Precision} {payload : Payload}
    (encoded : p.encode precision = .ok payload) :
    payload.tags = p.tags ∧ payload.values = p.values := by
  unfold encode at encoded
  split at encoded
  · cases encoded
  · cases encoded
    exact ⟨rfl, rfl⟩

theorem mem_keys_tags {name : String} :
    name ∈ p.tags.keys ↔ name ∈ p.attributes.keys ∧ p.measurement.isTag name = true := by
  rw [Keyed.mem_keys_iff, Keyed.mem_keys_iff, tags, Keyed.get?_filter]
  by_cases tagged : p.measurement.isTag name = true
  · rw [if_pos tagged, and_iff_left tagged]
  · rw [if_neg tagged]
    constructor
    · intro held
      cases held
    · rintro ⟨-, also⟩
      exact absurd also tagged

/-- Whatever the order of declarations and whatever was done with a point, its attributes are
declared, each of them is among the tags or among the values, with its value and in one of them
only, and it is among the tags exactly when some declaration gives it as a tag. A name that is not
declared is refused, and the point stays as it is. -/
theorem tags_split_values {series : Series} {declarations : List Declaration}
    (reachable : p.Reachable (.ofDeclarations series declarations)) :
    let m := Measurement.ofDeclarations series declarations
    (∀ name, m.isAttribute name = true ↔
      ∃ d ∈ declarations, name ∈ d.tagNames ∨ name ∈ d.valueNames) ∧
    (∀ name ∈ p.attributes.keys, m.isAttribute name = true) ∧
    p.attributes.Splits p.tags p.values ∧
    (∀ precision payload, p.encode precision = .ok payload →
      p.attributes.Splits payload.tags payload.values) ∧
    (∀ name, name ∈ p.tags.keys ↔
      name ∈ p.attributes.keys ∧ ∃ d ∈ declarations, name ∈ d.tagNames) ∧
    (∀ name value, m.isAttribute name = false →
      p.set name value = .error (.unknownAttribute p.series name) ∧
        p.act (.set name value) = (p, some (.unknownAttribute p.series name))) := by
  intro m
  have declares := Measurement.declares_ofDeclarations series declarations
  obtain ⟨declared, measurement⟩ : p.Declared ∧ p.measurement = m := reachable.declared
  have splits : p.attributes.Splits p.tags p.values :=
    splits_of_declared declared (measurement ▸ declares.apart)
  refine ⟨fun name => ?_, fun name mem => measurement ▸ declared name mem, splits, ?_,
    fun name => ?_, ?_⟩
  · rw [declares.isAttribute_iff]
    simp only [← exists_or, ← and_or_left]
  · intro precision payload encoded
    obtain ⟨tags, values⟩ := encode_splits encoded
    rw [tags, values]
    exact splits
  · rw [mem_keys_tags, measurement, declares.tag]
  · intro name value undeclared
    rw [← measurement] at undeclared
    exact ⟨set_of_undeclared undeclared value, act_of_undeclared undeclared value⟩

/-- A name that is declared both ways is a tag, also after a write with a hook that sets one
declared name and one that is not. -/
theorem tags_split_values_redeclared :
    let declarations : List Declaration := [.values ["host", "load"], .tags ["host"],
      .before ⟨"refresh", fun _ => []⟩, .values ["host"]]
    let m := Measurement.ofDeclarations (.name "cpu") declarations
    let turn : Turn := ⟨0, fun _ _ _ => [.set "load" (.int 2), .set "rack" .null]⟩
    let store := MemoryStore.new .seconds MemoryStore.noPoints false
    let built := ((new m).handle (.act (.set "host" (.str "a")))).point
    let p := (built.handle (.write turn store)).point.duplicate
    p.Reachable m ∧ p.attributes.keys = ["host", "load"] ∧ p.tags.keys = ["host"] ∧
      p.attributes.Splits p.tags p.values ∧
      p.act (.set "rack" .null) = (p, some (.unknownAttribute p.series "rack")) := by
  intro declarations m turn store built p
  have reachable : p.Reachable m := .duplicate (.handle (.handle .new _) (.write turn store))
  obtain ⟨-, -, splits, -, -, refused⟩ := tags_split_values reachable
  exact ⟨reachable, rfl, rfl, splits, (refused "rack" .null rfl).2⟩

end Point

end Telemetry
