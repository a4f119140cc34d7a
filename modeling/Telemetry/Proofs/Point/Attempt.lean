import Telemetry.Point
import Telemetry.Proofs.Series.Naming

/-!
# One attempt to write

An attempt ends in one of five ways: the point is written already, it fails validation, its series
has no single name, the datastore does not take it, or it is written. Each of them fixes the answer,
the point that is left, what the datastore was asked for and which hooks were run. Validation is of
the point as it came; the series and what is sent are of the point as the last hook before left it.

Hooks act on a point one after the other, each on the point as the hook before left it. Whatever
they do, they can neither change the measurement of the point nor whether it counts as written, and
each of them is run exactly once. What a datastore is asked for is kept beside it, in order, with
how each point sent to it fared; it answers as the datastore itself does.
-/

namespace Telemetry

inductive Contact where
  | write (name : String) (payload : Payload) (result : Except StoreError Unit)
  | query (statement : String)

/-- Whether the contact is a point that the datastore took. -/
def Contact.taken : Contact → Bool
  | .write _ _ (.ok ()) => true
  | _ => false

structure Observed (σ : Type) where
  store : σ
  contacts : List Contact

namespace Observed

variable {σ : Type} [Datastore σ]

/-- A datastore that was not asked for anything yet. -/
def start (store : σ) : Observed σ := ⟨store, []⟩

def write (observed : Observed σ) (name : String) (payload : Payload) :
    Exchange (Observed σ) Unit :=
  let exchange := Datastore.write observed.store name payload
  exchange.mapStore fun store =>
    ⟨store, observed.contacts ++ [.write name payload exchange.result]⟩

def query (observed : Observed σ) (statement : String) : Exchange (Observed σ) Response :=
  (Datastore.query observed.store statement).mapStore fun store =>
    ⟨store, observed.contacts ++ [.query statement]⟩

instance : Datastore (Observed σ) where
  precision observed := Datastore.precision observed.store
  write := write
  query := query

end Observed

/-- What a run shows when its hook begins. -/
def HookRun.beginning (run : HookRun) : Moment × String × Bool :=
  (run.moment, run.hook, run.persisted)

/-- One beginning for each hook, in order. -/
def beginnings (moment : Moment) (persisted : Bool) (hooks : List Hook) :
    List (Moment × String × Bool) :=
  hooks.map fun hook => (moment, hook.name, persisted)

namespace Point

/-- The point as a hook leaves it. -/
def undergo (p : Point) (hook : Hook) : Point :=
  (p.actAll (hook.actions p.toSample)).1

/-- The same point of the same measurement, written or not as before. -/
structure Continues (p q : Point) : Prop where
  measurement : q.measurement = p.measurement
  persisted : q.persisted = p.persisted

theorem Continues.refl (p : Point) : p.Continues p :=
  ⟨rfl, rfl⟩

theorem Continues.trans {p q r : Point} (hpq : p.Continues q) (hqr : q.Continues r) :
    p.Continues r :=
  ⟨hqr.measurement.trans hpq.measurement, hqr.persisted.trans hpq.persisted⟩

theorem act_continues (p : Point) (action : Action) : p.Continues (p.act action).1 := by
  cases action with
  | stamp time => exact ⟨rfl, rfl⟩
  | set name value =>
    by_cases declared : p.measurement.isAttribute name = true
    · simp only [act, set, if_pos declared]
      exact ⟨rfl, rfl⟩
    · simp only [act, set, if_neg declared]
      exact .refl p

theorem actAll_continues (p : Point) (actions : List Action) :
    p.Continues (p.actAll actions).1 := by
  induction actions generalizing p with
  | nil => exact .refl p
  | cons action rest ih => exact (p.act_continues action).trans (ih (p.act action).1)

theorem undergo_continues (p : Point) (hook : Hook) : p.Continues (p.undergo hook) :=
  p.actAll_continues (hook.actions p.toSample)

theorem foldl_undergo_continues (p : Point) (hooks : List Hook) :
    p.Continues (hooks.foldl undergo p) := by
  induction hooks generalizing p with
  | nil => exact .refl p
  | cons hook rest ih => exact (p.undergo_continues hook).trans (ih (p.undergo hook))

theorem runHooks_point (moment : Moment) (hooks : List Hook) (p : Point) :
    (runHooks moment hooks p).1 = hooks.foldl undergo p := by
  induction hooks generalizing p with
  | nil => rfl
  | cons hook rest ih => exact ih (p.undergo hook)

theorem runHooks_beginnings (moment : Moment) (hooks : List Hook) (p : Point) :
    (runHooks moment hooks p).2.map HookRun.beginning = beginnings moment p.persisted hooks := by
  induction hooks generalizing p with
  | nil => rfl
  | cons hook rest ih =>
    have later : (runHooks moment rest (p.undergo hook)).2.map HookRun.beginning =
        beginnings moment p.persisted rest := by
      rw [ih, (p.undergo_continues hook).persisted]
    exact congrArg ((moment, hook.name, p.persisted) :: ·) later

end Point

def Attempt.mapStore {σ τ α : Type} (f : σ → τ) (attempt : Attempt σ α) : Attempt τ α :=
  { attempt with store := f attempt.store }

/-- What is left behind: the point, what datastores were asked for, and the beginnings of the hooks
that were run. -/
structure Trail where
  point : Point
  contacts : List Contact
  runs : List (Moment × String × Bool)

def Attempt.trail {σ α : Type} (attempt : Attempt (Observed σ) α) : Trail :=
  ⟨attempt.point, attempt.store.contacts, attempt.runs.map HookRun.beginning⟩

structure Attempt.Ends {σ α : Type} (attempt : Attempt (Observed σ) α) (result : Except Fault α)
    (trail : Trail) : Prop where
  result : attempt.result = result
  trail : attempt.trail = trail

namespace Point

/-- The point as the last hook before leaves it. -/
def readied (p : Point) : Point :=
  p.measurement.before.foldl undergo p

/-- What is sent of a point. -/
def payload (p : Point) (precision : Precision) : Payload :=
  ⟨p.values, p.tags, p.time.map precision.scale⟩

def written (p : Point) : Point :=
  { p with persisted := true }

theorem readied_continues (p : Point) : p.Continues p.readied :=
  p.foldl_undergo_continues p.measurement.before

variable {σ : Type} [Datastore σ] {p : Point}

theorem encode_of_unwritten (unwritten : p.persisted = false) (precision : Precision) :
    p.encode precision = .ok (p.payload precision) := by
  rw [encode, unwritten]
  rfl

theorem prepare_of_unnamed (unnamed : p.measurement.series.writeName? (some p.toSample) = none)
    (precision : Precision) : p.prepare precision = .error (.unwritableSeries p.series) := by
  rw [prepare, unnamed]

theorem prepare_of_named (unwritten : p.persisted = false) {name : String}
    (named : p.measurement.series.writeName? (some p.toSample) = some name)
    (precision : Precision) : p.prepare precision = .ok (name, p.payload precision) := by
  rw [prepare, named, encode_of_unwritten unwritten]
  rfl

theorem named_of_prepared (unwritten : p.persisted = false) {precision : Precision} {name : String}
    {payload : Payload} (prepared : p.prepare precision = .ok (name, payload)) :
    p.measurement.series.writeName? (some p.toSample) = some name ∧
      payload = p.payload precision := by
  cases named : p.measurement.series.writeName? (some p.toSample) with
  | none =>
    rw [prepare_of_unnamed named] at prepared
    cases prepared
  | some resolved =>
    rw [prepare_of_named unwritten named] at prepared
    cases prepared
    exact ⟨rfl, rfl⟩

theorem send_of_refused {fault : Fault} {store : σ}
    (refused : p.readied.prepare (Datastore.precision store) = .error fault) (passes : Nat) :
    p.send passes store =
      ⟨.error fault, p.readied, passes, store, (runHooks .before p.measurement.before p).2, []⟩ := by
  rw [send]
  simp only [runHooks_point]
  rw [readied] at refused
  rw [refused]
  rfl

theorem send_of_failed {name : String} {payload : Payload} {error : StoreError} {store : σ}
    (prepared : p.readied.prepare (Datastore.precision store) = .ok (name, payload))
    (failed : (Datastore.write store name payload).result = .error error) (passes : Nat) :
    p.send passes store =
      ⟨.error (.store error), p.readied, passes, (Datastore.write store name payload).store,
        (runHooks .before p.measurement.before p).2,
        writingEntry name :: (Datastore.write store name payload).journal⟩ := by
  rw [send]
  simp only [runHooks_point]
  rw [readied] at prepared
  simp only [prepared, failed]
  rfl

theorem send_of_taken {name : String} {payload : Payload} {store : σ}
    (prepared : p.readied.prepare (Datastore.precision store) = .ok (name, payload))
    (taken : (Datastore.write store name payload).result = .ok ()) (passes : Nat) :
    p.send passes store =
      ⟨.ok true, p.measurement.after.foldl undergo p.readied.written, passes,
        (Datastore.write store name payload).store,
        (runHooks .before p.measurement.before p).2 ++
          (runHooks .after p.measurement.after p.readied.written).2,
        writingEntry name :: (Datastore.write store name payload).journal⟩ := by
  rw [send]
  simp only [runHooks_point]
  rw [readied] at prepared
  simp only [prepared, taken]
  rfl

/-- The ways through sending. -/
@[elab_as_elim]
theorem send_cases {motive : Attempt σ Bool → Prop} {passes : Nat} {store : σ}
    (refused : ∀ fault, p.readied.prepare (Datastore.precision store) = .error fault →
      motive ⟨.error fault, p.readied, passes, store,
        (runHooks .before p.measurement.before p).2, []⟩)
    (failed : ∀ name payload error,
      p.readied.prepare (Datastore.precision store) = .ok (name, payload) →
      (Datastore.write store name payload).result = .error error →
      motive ⟨.error (.store error), p.readied, passes, (Datastore.write store name payload).store,
        (runHooks .before p.measurement.before p).2,
        writingEntry name :: (Datastore.write store name payload).journal⟩)
    (taken : ∀ name payload,
      p.readied.prepare (Datastore.precision store) = .ok (name, payload) →
      (Datastore.write store name payload).result = .ok () →
      motive ⟨.ok true, p.measurement.after.foldl undergo p.readied.written, passes,
        (Datastore.write store name payload).store,
        (runHooks .before p.measurement.before p).2 ++
          (runHooks .after p.measurement.after p.readied.written).2,
        writingEntry name :: (Datastore.write store name payload).journal⟩) :
    motive (p.send passes store) := by
  cases prepared : p.readied.prepare (Datastore.precision store) with
  | error fault =>
    rw [send_of_refused prepared]
    exact refused fault prepared
  | ok sent =>
    obtain ⟨name, payload⟩ := sent
    cases outcome : (Datastore.write store name payload).result with
    | error error =>
      rw [send_of_failed prepared outcome]
      exact failed name payload error prepared outcome
    | ok _ =>
      rw [send_of_taken prepared outcome]
      exact taken name payload prepared outcome

theorem write_of_written (written : p.persisted = true) (passes : Nat) (store : σ) :
    p.write passes store = ⟨.error .alreadyPersisted, p, passes, store, [], []⟩ :=
  if_pos written

theorem write_of_failures (unwritten : p.persisted = false) {passes : Nat}
    (invalid : p.failures (passes + 1) ≠ []) (store : σ) :
    p.write passes store = ⟨.ok false, p, passes + 1, store, [],
      [p.refusedEntry (p.failures (passes + 1))]⟩ := by
  rw [write, unwritten, if_neg Bool.false_ne_true]
  cases failures : p.failures (passes + 1) with
  | nil => exact absurd failures invalid
  | cons failure rest => rfl

theorem write_of_valid (unwritten : p.persisted = false) {passes : Nat}
    (valid : p.failures (passes + 1) = []) (store : σ) :
    p.write passes store = p.send (passes + 1) store := by
  rw [write, unwritten, if_neg Bool.false_ne_true, valid]

/-- The ways through a write, up to sending. -/
@[elab_as_elim]
theorem write_cases {motive : Attempt σ Bool → Prop} {passes : Nat} {store : σ}
    (written : p.persisted = true → motive ⟨.error .alreadyPersisted, p, passes, store, [], []⟩)
    (invalid : p.persisted = false → p.failures (passes + 1) ≠ [] →
      motive ⟨.ok false, p, passes + 1, store, [], [p.refusedEntry (p.failures (passes + 1))]⟩)
    (valid : p.persisted = false → p.failures (passes + 1) = [] →
      motive (p.send (passes + 1) store)) :
    motive (p.write passes store) := by
  cases persisted : p.persisted with
  | true =>
    rw [write_of_written persisted]
    exact written persisted
  | false =>
    by_cases none : p.failures (passes + 1) = []
    · rw [write_of_valid persisted none]
      exact valid persisted none
    · rw [write_of_failures persisted none]
      exact invalid persisted none

theorem writeStrict_of_failures {passes : Nat} (invalid : p.failures (passes + 1) ≠ [])
    (store : σ) :
    p.writeStrict passes store =
      ⟨.error (.validationFailed (p.failures (passes + 1))), p, passes + 1, store, [], []⟩ := by
  rw [writeStrict]
  cases failures : p.failures (passes + 1) with
  | nil => exact absurd failures invalid
  | cons failure rest => rfl

theorem writeStrict_of_written (written : p.persisted = true) {passes : Nat}
    (valid : p.failures (passes + 1) = []) (store : σ) :
    p.writeStrict passes store = ⟨.error .alreadyPersisted, p, passes + 1, store, [], []⟩ := by
  rw [writeStrict, valid]
  simp only [write_of_written written]

/-- A strict write of a valid point is a write, but for its answer. -/
theorem writeStrict_of_valid {passes : Nat} (valid : p.failures (passes + 1) = []) (store : σ) :
    (p.writeStrict passes store).point = (p.write (passes + 1) store).point ∧
      (p.writeStrict passes store).store = (p.write (passes + 1) store).store ∧
      (p.writeStrict passes store).runs = (p.write (passes + 1) store).runs := by
  rw [writeStrict, valid]
  cases answer : (p.write (passes + 1) store).result with
  | error fault => simp only [answer, and_self]
  | ok valid => cases valid <;> simp only [answer, and_self]

/-- A datastore that is observed is sent the same and leaves the same behind. -/
theorem send_observed (p : Point) (passes : Nat) (observed : Observed σ) :
    (p.send passes observed).mapStore Observed.store = p.send passes observed.store := by
  cases prepared : p.readied.prepare (Datastore.precision observed.store) with
  | error fault =>
    have seen : p.readied.prepare (Datastore.precision observed) = .error fault := prepared
    rw [send_of_refused seen, send_of_refused prepared]
    rfl
  | ok sent =>
    obtain ⟨name, payload⟩ := sent
    have seen : p.readied.prepare (Datastore.precision observed) = .ok (name, payload) := prepared
    cases outcome : (Datastore.write observed.store name payload).result with
    | error error =>
      rw [send_of_failed seen outcome, send_of_failed prepared outcome]
      rfl
    | ok _ =>
      rw [send_of_taken seen outcome, send_of_taken prepared outcome]
      rfl

theorem write_observed (p : Point) (passes : Nat) (observed : Observed σ) :
    (p.write passes observed).mapStore Observed.store = p.write passes observed.store := by
  cases written : p.persisted with
  | true =>
    rw [write_of_written written, write_of_written written]
    rfl
  | false =>
    by_cases valid : p.failures (passes + 1) = []
    · rw [write_of_valid written valid, write_of_valid written valid, send_observed]
    · rw [write_of_failures written valid, write_of_failures written valid]
      rfl

theorem readied_persisted (unwritten : p.persisted = false) : p.readied.persisted = false :=
  p.readied_continues.persisted.trans unwritten

theorem runHooks_before (unwritten : p.persisted = false) :
    (runHooks .before p.measurement.before p).2.map HookRun.beginning =
      beginnings .before false p.measurement.before := by
  rw [runHooks_beginnings, unwritten]

theorem write_ends_invalid (unwritten : p.persisted = false) {passes : Nat}
    (invalid : p.failures (passes + 1) ≠ []) (store : σ) :
    (p.write passes (Observed.start store)).Ends (.ok false) ⟨p, [], []⟩ := by
  rw [write_of_failures unwritten invalid]
  exact ⟨rfl, rfl⟩

theorem write_ends_unnamed (unwritten : p.persisted = false) {passes : Nat}
    (valid : p.failures (passes + 1) = [])
    (unnamed : p.measurement.series.writeName? (some p.readied.toSample) = none) (store : σ) :
    (p.write passes (Observed.start store)).Ends
      (.error (.unwritableSeries (p.measurement.series.quoted (some p.readied.toSample))))
      ⟨p.readied, [], beginnings .before false p.measurement.before⟩ := by
  rw [← p.readied_continues.measurement] at unnamed
  rw [write_of_valid unwritten valid, send_of_refused (prepare_of_unnamed unnamed _)]
  constructor
  · rw [series, p.readied_continues.measurement]
  · exact congrArg (Trail.mk p.readied []) (runHooks_before unwritten)

theorem write_ends_named (unwritten : p.persisted = false) {passes : Nat}
    (valid : p.failures (passes + 1) = []) {name : String}
    (named : p.measurement.series.writeName? (some p.readied.toSample) = some name) (store : σ) :
    let attempt := p.write passes (Observed.start store)
    let begun := beginnings .before false p.measurement.before
    let payload := p.readied.payload (Datastore.precision store)
    let outcome := (Datastore.write store name payload).result
    (∀ error, outcome = .error error →
      attempt.Ends (.error (.store error))
        ⟨p.readied, [.write name payload (.error error)], begun⟩) ∧
    (outcome = .ok () →
      attempt.Ends (.ok true)
        ⟨p.measurement.after.foldl undergo p.readied.written, [.write name payload (.ok ())],
          begun ++ beginnings .after true p.measurement.after⟩) := by
  intro attempt begun payload outcome
  rw [← p.readied_continues.measurement] at named
  have prepared : p.readied.prepare (Datastore.precision (Observed.start store)) =
      .ok (name, payload) :=
    prepare_of_named (readied_persisted unwritten) named _
  have begins : (runHooks .before p.measurement.before p).2.map HookRun.beginning = begun :=
    runHooks_before unwritten
  have sends : attempt = p.send (passes + 1) (Observed.start store) :=
    write_of_valid unwritten valid _
  rw [sends]
  -- the contact holds what the datastore itself answered
  constructor
  · intro error failed
    rw [send_of_failed prepared failed, ← failed, ← begins]
    exact ⟨rfl, rfl⟩
  · intro taken
    have follows : (runHooks .after p.measurement.after p.readied.written).2.map
        HookRun.beginning = beginnings .after true p.measurement.after :=
      runHooks_beginnings ..
    rw [send_of_taken prepared taken, ← taken, ← begins, ← follows, ← List.map_append]
    exact ⟨rfl, rfl⟩

end Point

end Telemetry
