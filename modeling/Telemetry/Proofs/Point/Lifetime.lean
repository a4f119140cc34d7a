import Telemetry.Proofs.Point.Attempt

/-!
# The life of a point

A point is set, stamped and written any number of times, each time to a datastore of its own, and
from one time to the next validators may find something else and hooks may do something else. Only
one datastore ever takes the point. The hooks after are run for it, once, and from then on the point
is sealed: it is not sent again, whatever is tried.
-/

namespace Telemetry

/-- What may differ from one write to the next: how often was validated before, and what each hook
does, told by its place. -/
structure Turn where
  passes : Nat
  actions : Moment → Nat → Sample → List Action

def Turn.hooks (turn : Turn) (moment : Moment) (hooks : List Hook) : List Hook :=
  hooks.mapIdx fun place hook => { hook with actions := turn.actions moment place }

def Measurement.inTurn (m : Measurement) (turn : Turn) : Measurement :=
  { m with
    before := turn.hooks .before m.before
    after := turn.hooks .after m.after }

def Point.inTurn (p : Point) (turn : Turn) : Point :=
  { p with measurement := p.measurement.inTurn turn }

inductive Handling : Type 1 where
  | act (action : Action)
  | write {σ : Type} [Datastore σ] (turn : Turn) (store : σ)
  | writeStrict {σ : Type} [Datastore σ] (turn : Turn) (store : σ)

namespace Trail

/-- How many of the points that were sent have been taken. -/
def taken (trail : Trail) : Nat :=
  trail.contacts.countP Contact.taken

def afterRuns (trail : Trail) : List (Moment × String × Bool) :=
  trail.runs.filter fun run => run.1 = .after

def append (first second : Trail) : Trail :=
  ⟨second.point, first.contacts ++ second.contacts, first.runs ++ second.runs⟩

/-- The same trail of a point of the given measurement. -/
def ofMeasurement (m : Measurement) (trail : Trail) : Trail :=
  { trail with point := { trail.point with measurement := m } }

end Trail

namespace Point

def handle (p : Point) : Handling → Trail
  | .act action => ⟨(p.act action).1, [], []⟩
  | @Handling.write _ _ turn store =>
    ((p.inTurn turn).write turn.passes (Observed.start store)).trail.ofMeasurement p.measurement
  | @Handling.writeStrict _ _ turn store =>
    ((p.inTurn turn).writeStrict turn.passes (Observed.start store)).trail.ofMeasurement
      p.measurement

def handleAll (p : Point) : List Handling → Trail
  | [] => ⟨p, [], []⟩
  | handling :: rest => (p.handle handling).append ((p.handle handling).point.handleAll rest)

end Point

theorem beginnings_inTurn (turn : Turn) (moment : Moment) (persisted : Bool) (hooks : List Hook) :
    beginnings moment persisted (turn.hooks moment hooks) = beginnings moment persisted hooks := by
  refine List.ext_getElem ?_ fun place _ _ => ?_
  · simp only [beginnings, Turn.hooks, List.length_map, List.length_mapIdx]
  · simp only [beginnings, Turn.hooks, List.getElem_map, List.getElem_mapIdx]

/-- What the trail of a point tells: it stays a point of its measurement, it is written by as many
datastores as have taken it, and each of them has let the hooks after run. -/
structure Trail.Accounts (trail : Trail) (p : Point) : Prop where
  measurement : trail.point.measurement = p.measurement
  taken : p.persisted.toNat + trail.taken = trail.point.persisted.toNat
  after : trail.afterRuns =
    (List.replicate trail.taken (beginnings .after true p.measurement.after)).flatten

theorem filter_beginnings_before (persisted : Bool) (hooks : List Hook) :
    (beginnings .before persisted hooks).filter (fun run => run.1 = .after) = [] := by
  refine List.filter_eq_nil_iff.mpr fun run mem => ?_
  obtain ⟨hook, -, rfl⟩ := List.mem_map.mp mem
  exact Bool.false_ne_true

theorem filter_beginnings_after (persisted : Bool) (hooks : List Hook) :
    (beginnings .after persisted hooks).filter (fun run => run.1 = .after) =
      beginnings .after persisted hooks := by
  refine List.filter_eq_self.mpr fun run mem => ?_
  obtain ⟨hook, -, rfl⟩ := List.mem_map.mp mem
  rfl

namespace Trail.Accounts

variable {p : Point} {trail first second : Trail}

theorem append (hf : first.Accounts p) (hs : second.Accounts first.point) :
    (first.append second).Accounts p := by
  have counted : (first.append second).taken = first.taken + second.taken := List.countP_append
  constructor
  · exact hs.measurement.trans hf.measurement
  · rw [counted, ← Nat.add_assoc, hf.taken, hs.taken]
    rfl
  · rw [counted, ← List.replicate_append_replicate, List.flatten_append, ← hf.after,
      ← hf.measurement, ← hs.after]
    exact List.filter_append ..

/-- A trail on which no point was taken. -/
theorem of_untaken (continues : p.Continues trail.point) (untaken : trail.taken = 0)
    (quiet : trail.afterRuns = []) : trail.Accounts p := by
  refine ⟨continues.measurement, ?_, ?_⟩
  · rw [untaken, continues.persisted, Nat.add_zero]
  · rw [untaken, quiet]
    rfl

/-- The trail of a point that was taken once. -/
theorem of_taken {ready : Point} {name : String} {payload : Payload}
    (unwritten : p.persisted = false) (continues : p.Continues ready) :
    Trail.Accounts ⟨p.measurement.after.foldl Point.undergo ready.written,
      [.write name payload (.ok ())],
      beginnings .before false p.measurement.before ++
        beginnings .after true p.measurement.after⟩ p := by
  have final := ready.written.foldl_undergo_continues p.measurement.after
  refine ⟨final.measurement.trans continues.measurement, ?_, ?_⟩
  · rw [unwritten, final.persisted]
    rfl
  · have runs := List.filter_append (p := fun run => decide (run.1 = Moment.after))
      (beginnings .before false p.measurement.before) (beginnings .after true p.measurement.after)
    rw [filter_beginnings_before, filter_beginnings_after] at runs
    exact runs.trans (List.append_nil _).symm

theorem ofMeasurement {turn : Turn} (h : trail.Accounts (p.inTurn turn)) :
    (trail.ofMeasurement p.measurement).Accounts p := by
  refine ⟨rfl, h.taken, h.after.trans ?_⟩
  exact congrArg (fun runs => (List.replicate trail.taken runs).flatten)
    (beginnings_inTurn turn .after true p.measurement.after)

theorem taken_le_one (h : trail.Accounts p) : trail.taken ≤ 1 := by
  have counted := h.taken
  have bound := Bool.toNat_le trail.point.persisted
  omega

theorem written_iff (h : trail.Accounts p) :
    trail.point.persisted = true ↔ p.persisted = true ∨ trail.taken = 1 := by
  have bound := Bool.toNat_le trail.point.persisted
  rw [← Bool.toNat_eq_one, ← Bool.toNat_eq_one, ← h.taken]
  rw [← h.taken] at bound
  omega

theorem taken_of_written (h : trail.Accounts p) (written : p.persisted = true) :
    trail.taken = 0 := by
  have counted := h.taken
  have bound := Bool.toNat_le trail.point.persisted
  rw [written, Bool.toNat_true] at counted
  omega

theorem afterRuns_eq (h : trail.Accounts p) : trail.afterRuns =
    if trail.taken = 1 then beginnings .after true p.measurement.after else [] := by
  rw [h.after]
  by_cases once : trail.taken = 1
  · rw [once, if_pos rfl, List.replicate_one, List.flatten_singleton]
  · have never : trail.taken = 0 := by
      have bound := h.taken_le_one
      omega
    rw [never]
    rfl

end Trail.Accounts

namespace Point

variable {σ : Type} [Datastore σ]

theorem write_accounts (p : Point) (passes : Nat) (store : σ) :
    (p.write passes (Observed.start store)).trail.Accounts p := by
  -- one case for each way out of an attempt; a point is taken in the last of them only
  cases unwritten : p.persisted with
  | true =>
    rw [write_of_written unwritten]
    exact .of_untaken (.refl p) rfl rfl
  | false =>
    by_cases invalid : p.failures (passes + 1) ≠ []
    · rw [(write_ends_invalid unwritten invalid store).trail]
      exact .of_untaken (.refl p) rfl rfl
    · have valid : p.failures (passes + 1) = [] := Classical.not_not.mp invalid
      cases named : p.measurement.series.writeName? (some p.readied.toSample) with
      | none =>
        rw [(write_ends_unnamed unwritten valid named store).trail]
        exact .of_untaken p.readied_continues rfl (filter_beginnings_before ..)
      | some name =>
        obtain ⟨failing, taking⟩ := write_ends_named unwritten valid named store
        cases outcome : (Datastore.write store name
            (p.readied.payload (Datastore.precision store))).result with
        | error error =>
          rw [(failing error outcome).trail]
          exact .of_untaken p.readied_continues rfl (filter_beginnings_before ..)
        | ok _ =>
          rw [(taking outcome).trail]
          exact .of_taken unwritten p.readied_continues

theorem writeStrict_accounts (p : Point) (passes : Nat) (store : σ) :
    (p.writeStrict passes (Observed.start store)).trail.Accounts p := by
  by_cases valid : p.failures (passes + 1) = []
  · obtain ⟨point, contacted, runs⟩ := writeStrict_of_valid valid (Observed.start store)
    rw [Attempt.trail, point, contacted, runs]
    exact p.write_accounts (passes + 1) store
  · rw [writeStrict_of_failures valid]
    exact .of_untaken (.refl p) rfl rfl

theorem handle_accounts (p : Point) (handling : Handling) :
    (p.handle handling).Accounts p := by
  cases handling with
  | act action => exact .of_untaken (p.act_continues action) rfl rfl
  | write turn store => exact .ofMeasurement ((p.inTurn turn).write_accounts turn.passes store)
  | writeStrict turn store =>
    exact .ofMeasurement ((p.inTurn turn).writeStrict_accounts turn.passes store)

theorem handleAll_accounts (p : Point) (handlings : List Handling) :
    (p.handleAll handlings).Accounts p := by
  induction handlings generalizing p with
  | nil => exact .of_untaken (.refl p) rfl rfl
  | cons handling rest ih =>
    -- the rest has an account of its own, from the point that this handling left
    exact (p.handle_accounts handling).append (ih (p.handle handling).point)

theorem handleAll_append (p : Point) (earlier later : List Handling) :
    p.handleAll (earlier ++ later) =
      (p.handleAll earlier).append ((p.handleAll earlier).point.handleAll later) := by
  induction earlier generalizing p with
  | nil => rfl
  | cons handling rest ih =>
    rw [List.cons_append, handleAll, ih, handleAll]
    simp only [Trail.append, List.append_assoc]

/-- A point that is not sent again: an attempt fails, leaves it as it is, asks the datastore for
nothing and runs no hook. A strict attempt may fail in validation first. -/
structure Sealed (p : Point) : Prop where
  encode (precision : Precision) : p.encode precision = .error .alreadyPersisted
  write {σ : Type} [Datastore σ] (passes : Nat) (store : σ) :
    (p.write passes (Observed.start store)).Ends (.error .alreadyPersisted) ⟨p, [], []⟩
  writeStrict {σ : Type} [Datastore σ] (passes : Nat) (store : σ) :
    (p.writeStrict passes (Observed.start store)).Ends
      (.error (match p.failures (passes + 1) with
        | [] => .alreadyPersisted
        | failures => .validationFailed failures))
      ⟨p, [], []⟩

theorem sealed_of_written {p : Point} (written : p.persisted = true) : p.Sealed := by
  constructor
  · intro precision
    exact if_pos written
  · intro σ _ passes store
    rw [write_of_written written]
    exact ⟨rfl, rfl⟩
  · intro σ _ passes store
    by_cases valid : p.failures (passes + 1) = []
    · rw [writeStrict_of_written written valid, valid]
      exact ⟨rfl, rfl⟩
    · rw [writeStrict_of_failures valid]
      cases failures : p.failures (passes + 1) with
      | nil => exact absurd failures valid
      | cons failure rest => exact ⟨rfl, rfl⟩

/-- A point is written at most once. It counts as written exactly when a datastore has taken it, and
is sealed for ever after. This holds of every part of its life that starts at the beginning, so the
hooks after do not run before a datastore has taken the point. -/
theorem written_once (p : Point) (handlings : List Handling) :
    let trail := p.handleAll handlings
    trail.taken ≤ 1 ∧
      (trail.point.persisted = true ↔ p.persisted = true ∨ trail.taken = 1) ∧
      (p.persisted = true → trail.taken = 0) ∧
      trail.afterRuns =
        (if trail.taken = 1 then beginnings .after true p.measurement.after else []) ∧
      (trail.point.persisted = true → ∀ later : List Handling,
        (p.handleAll (handlings ++ later)).point.persisted = true ∧
        ∀ turn, ((p.handleAll (handlings ++ later)).point.inTurn turn).Sealed) := by
  intro trail
  have accounts : trail.Accounts p := p.handleAll_accounts handlings
  refine ⟨accounts.taken_le_one, accounts.written_iff, accounts.taken_of_written,
    accounts.afterRuns_eq, fun written later => ?_⟩
  have kept : (p.handleAll (handlings ++ later)).point.persisted = true := by
    rw [handleAll_append]
    exact (trail.point.handleAll_accounts later).written_iff.mpr (Or.inl written)
  exact ⟨kept, fun turn => sealed_of_written kept⟩

example :
    let p := Point.new (.new (.name "cpu"))
    let turn : Turn := ⟨0, fun _ _ _ => []⟩
    let down := MemoryStore.new .seconds MemoryStore.noPoints true
    let up := MemoryStore.new .seconds MemoryStore.noPoints false
    (p.handleAll [.write turn down, .act (.stamp ⟨1, 0⟩), .writeStrict turn up,
      .write turn up]).taken = 1 :=
  rfl

end Point

end Telemetry
