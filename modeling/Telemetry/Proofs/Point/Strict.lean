import Mathlib.Data.List.Basic
import Telemetry.Proofs.Measurement.Declared
import Telemetry.Proofs.Point.Attempt

/-!
# Strict writes

A strict write validates the point, writes it, which validates it again, and validates it a third
time to say why the second pass refused it. If validators are functions of the point, the passes
agree and a strict write does what a lenient one does; only its answer to a point that is not valid
is another. If they are not, a third pass that finds nothing makes a strict write fail without a
reason.
-/

namespace Telemetry

/-- What the validator finds depends on the sample alone. -/
def Validator.Pure (check : Validator) : Prop :=
  ∃ find : Sample → Option Failure, check = fun _ => find

theorem Validator.presence_pure (field : String) : (Validator.presence field).Pure :=
  ⟨_, rfl⟩

namespace Point

/-- A lenient answer told strictly. -/
def strictly (failures : List Failure) : Except Fault Bool → Except Fault Unit
  | .ok true => .ok ()
  | .ok false => .error (.validationFailed failures)
  | .error fault => .error fault

variable {σ : Type} [Datastore σ] {p : Point}

theorem failures_of_pure (pure : ∀ check ∈ p.measurement.validators, check.Pure)
    (first second : Nat) : p.failures first = p.failures second := by
  refine List.filterMap_congr fun check mem => ?_
  obtain ⟨find, rfl⟩ := pure check mem
  rfl

theorem prepare_ne_validationFailed (p : Point) (precision : Precision)
    (failures : List Failure) : p.prepare precision ≠ .error (.validationFailed failures) := by
  unfold prepare encode
  split
  · exact nofun
  · split <;> exact nofun

/-- What is sent was valid, so validation is no answer. -/
theorem send_result (p : Point) (passes : Nat) (store : σ) :
    (p.send passes store).result ≠ .ok false ∧
      ∀ failures, (p.send passes store).result ≠ .error (.validationFailed failures) := by
  refine send_cases (fun fault refused => ?_) (fun _ _ _ _ _ => ?_) fun _ _ _ _ => ?_
  · refine ⟨nofun, fun failures same => ?_⟩
    rw [Except.error.inj same] at refused
    exact prepare_ne_validationFailed _ _ failures refused
  · exact ⟨nofun, nofun⟩
  · exact ⟨nofun, nofun⟩

/-- Sending only passes on how often was validated. -/
theorem send_eq (p : Point) (first second : Nat) (store : σ) :
    p.send first store = { p.send second store with passes := first } := by
  cases prepared : p.readied.prepare (Datastore.precision store) with
  | error fault => rw [send_of_refused prepared, send_of_refused prepared]
  | ok sent =>
    obtain ⟨name, payload⟩ := sent
    cases outcome : (Datastore.write store name payload).result with
    | error error => rw [send_of_failed prepared outcome, send_of_failed prepared outcome]
    | ok _ => rw [send_of_taken prepared outcome, send_of_taken prepared outcome]

theorem write_result_eq_false_iff {passes : Nat} {store : σ} :
    (p.write passes store).result = .ok false ↔
      p.persisted = false ∧ p.failures (passes + 1) ≠ [] := by
  refine write_cases (fun written => ?_) (fun unwritten invalid => ?_) fun _ valid => ?_
  · exact iff_of_false nofun fun h => Bool.false_ne_true (h.1.symm.trans written)
  · exact iff_of_true rfl ⟨unwritten, invalid⟩
  · exact iff_of_false (p.send_result (passes + 1) store).1 fun h => h.2 valid

theorem write_ne_validationFailed (p : Point) (passes : Nat) (store : σ)
    (failures : List Failure) :
    (p.write passes store).result ≠ .error (.validationFailed failures) := by
  refine write_cases (fun _ => ?_) (fun _ _ => ?_) fun _ _ => ?_
  · exact nofun
  · exact nofun
  · exact (p.send_result (passes + 1) store).2 failures

/-- After a first pass that finds nothing, what is reported is what the third pass finds. -/
theorem writeStrict_result_of_valid {passes : Nat} (valid : p.failures (passes + 1) = [])
    (store : σ) : (p.writeStrict passes store).result =
      strictly (p.failures (passes + 3)) (p.write (passes + 1) store).result := by
  rw [writeStrict, valid]
  cases answer : (p.write (passes + 1) store).result with
  | error fault => simp only [answer, strictly]
  | ok taken =>
    cases taken with
    | true => simp only [answer, strictly]
    | false =>
      obtain ⟨unwritten, invalid⟩ := write_result_eq_false_iff.mp answer
      simp only [strictly, write_of_failures unwritten invalid]

theorem strictly_eq_ok_iff {failures : List Failure} {answer : Except Fault Bool} :
    strictly failures answer = .ok () ↔ answer = .ok true := by
  unfold strictly
  split <;> simp_all

theorem strictly_eq_validationFailed_iff {failures reported : List Failure}
    {answer : Except Fault Bool} (lenient : answer ≠ .error (.validationFailed reported)) :
    strictly failures answer = .error (.validationFailed reported) ↔
      answer = .ok false ∧ reported = failures := by
  unfold strictly
  split
  · simp
  · simp [eq_comm]
  · simp_all

theorem strictly_eq_error_iff {failures : List Failure} {answer : Except Fault Bool}
    {fault : Fault} (other : ∀ reported, fault ≠ .validationFailed reported) :
    strictly failures answer = .error fault ↔ answer = .error fault := by
  unfold strictly
  split
  · simp
  · simp [(other failures).symm]
  · simp

theorem writeStrict_eq_validationFailed_iff {passes : Nat} {store : σ}
    {reported : List Failure} :
    (p.writeStrict passes store).result = .error (.validationFailed reported) ↔
      (p.failures (passes + 1) ≠ [] ∧ reported = p.failures (passes + 1)) ∨
      (p.persisted = false ∧ p.failures (passes + 1) = [] ∧ p.failures (passes + 2) ≠ [] ∧
        reported = p.failures (passes + 3)) := by
  by_cases valid : p.failures (passes + 1) = []
  · rw [writeStrict_result_of_valid valid, strictly_eq_validationFailed_iff
      (p.write_ne_validationFailed (passes + 1) store reported), write_result_eq_false_iff]
    simp [valid, and_assoc]
  · rw [writeStrict_of_failures valid]
    constructor
    · intro same
      exact Or.inl ⟨valid, (Fault.validationFailed.inj (Except.error.inj same)).symm⟩
    · rintro (⟨-, rfl⟩ | ⟨-, nothing, -⟩)
      · rfl
      · exact absurd nothing valid

/-- What a strict write reports was found by the first pass, or by a third one after the second has
refused the point. So it fails without a reason exactly when the passes find nothing, something and
nothing again. -/
theorem failed_without_reason_iff (p : Point) (passes : Nat) (store : σ) :
    let result := (p.writeStrict passes store).result
    (∀ reported, result = .error (.validationFailed reported) ↔
      (p.failures (passes + 1) ≠ [] ∧ reported = p.failures (passes + 1)) ∨
      (p.persisted = false ∧ p.failures (passes + 1) = [] ∧ p.failures (passes + 2) ≠ [] ∧
        reported = p.failures (passes + 3))) ∧
    (result = .error (.validationFailed []) ↔
      p.persisted = false ∧ p.failures (passes + 1) = [] ∧ p.failures (passes + 2) ≠ [] ∧
        p.failures (passes + 3) = []) := by
  intro result
  refine ⟨fun reported => writeStrict_eq_validationFailed_iff, ?_⟩
  rw [writeStrict_eq_validationFailed_iff, or_iff_right fun h => h.1 h.2.symm, eq_comm (a := [])]

/-- A validator that objects once, to the second pass of a strict write. -/
theorem failed_without_reason :
    let once : Validator := fun pass _ => if pass = 3 then some ⟨"load", "is stale"⟩ else none
    let m := Measurement.ofDeclarations (.name "cpu") [.values ["load"], .validator once]
    let store := MemoryStore.new .seconds MemoryStore.noPoints false
    ((new m).writeStrict 1 store).result = .error (.validationFailed []) :=
  rfl

theorem writeStrict_of_pure (pure : ∀ check ∈ p.measurement.validators, check.Pure)
    (unwritten : p.persisted = false) (passes : Nat) (store : σ) :
    let lenient := p.write passes store
    let strict := p.writeStrict passes store
    strict.point = lenient.point ∧ strict.store = lenient.store ∧ strict.runs = lenient.runs ∧
      strict.result = strictly (p.failures (passes + 1)) lenient.result := by
  intro lenient strict
  by_cases valid : p.failures (passes + 1) = []
  · have revalid : p.failures (passes + 1 + 1) = [] :=
      (failures_of_pure pure ..).trans valid
    have again : p.write (passes + 1) store = { lenient with passes := passes + 2 } := by
      rw [write_of_valid unwritten revalid, send_eq p _ (passes + 1)]
      exact congrArg (fun attempt => { attempt with passes := passes + 2 })
        (write_of_valid unwritten valid store).symm
    obtain ⟨point, left, runs⟩ := writeStrict_of_valid valid store
    rw [again] at point left runs
    refine ⟨point, left, runs, ?_⟩
    have told := writeStrict_result_of_valid valid store
    rw [again] at told
    rw [failures_of_pure pure (passes + 1) (passes + 3)]
    exact told
  · have refused := write_of_failures unwritten valid store
    have failed := writeStrict_of_failures valid store
    simp only [lenient, strict, refused, failed, strictly, and_self]

theorem writeStrict_observed (p : Point) (passes : Nat) (observed : Observed σ) :
    (p.writeStrict passes observed).mapStore Observed.store =
      p.writeStrict passes observed.store := by
  by_cases valid : p.failures (passes + 1) = []
  · rw [writeStrict, writeStrict, valid, ← write_observed]
    obtain ⟨result, point, passes, store, runs, journal⟩ := p.write (passes + 1) observed
    rcases result with fault | ⟨taken | refused⟩ <;> rfl
  · rw [writeStrict_of_failures valid, writeStrict_of_failures valid]
    rfl

/-- With validators that are functions of the point, both kinds of writes of an unwritten point run
the same hooks, ask the datastore for the same and leave the same behind. The strict answer is the
lenient one, but that a point that is not valid is reported with all its failures, in the order of
the validators. A written point is left alone by both, and a strict write finds it written only if
it is valid. -/
theorem writes_agree (pure : ∀ check ∈ p.measurement.validators, check.Pure) (passes : Nat)
    (store : σ) :
    let lenient := p.write passes (Observed.start store)
    let strict := p.writeStrict passes (Observed.start store)
    let failures := p.measurement.validators.filterMap fun check => check (passes + 1) p.toSample
    lenient.mapStore Observed.store = p.write passes store ∧
    strict.mapStore Observed.store = p.writeStrict passes store ∧
    (p.persisted = false →
      (strict.point = lenient.point ∧ strict.store = lenient.store ∧ strict.runs = lenient.runs) ∧
      (strict.result = .ok () ↔ lenient.result = .ok true) ∧
      (∀ reported, strict.result = .error (.validationFailed reported) ↔
        lenient.result = .ok false ∧ reported = failures) ∧
      (∀ fault, lenient.result = .error fault ↔
        strict.result = .error fault ∧ ∀ reported, fault ≠ .validationFailed reported)) ∧
    (p.persisted = true →
      (lenient.point = p ∧ lenient.store = .start store ∧ lenient.runs = []) ∧
      (strict.point = p ∧ strict.store = .start store ∧ strict.runs = []) ∧
      lenient.result = .error .alreadyPersisted ∧
      (strict.result = .error .alreadyPersisted ↔ failures = []) ∧
      (failures ≠ [] → strict.result = .error (.validationFailed failures))) ∧
    (∀ series declarations, p.measurement = .ofDeclarations series declarations →
      failures = (declarations.flatMap Declaration.checks).filterMap fun check =>
        check (passes + 1) p.toSample) := by
  intro lenient strict failures
  refine ⟨p.write_observed passes _, p.writeStrict_observed passes _, fun unwritten => ?_,
    fun written => ?_, fun series declarations declared => ?_⟩
  · obtain ⟨point, left, runs, told⟩ :=
      writeStrict_of_pure pure unwritten passes (Observed.start store)
    have answers (reported : List Failure) : lenient.result ≠ .error (.validationFailed reported) :=
      p.write_ne_validationFailed passes _ reported
    refine ⟨⟨point, left, runs⟩, ?_, fun reported => ?_, fun fault => ?_⟩
    · rw [told, strictly_eq_ok_iff]
    · rw [told, strictly_eq_validationFailed_iff (answers reported)]
      rfl
    · rw [told]
      constructor
      · intro failed
        have other (reported : List Failure) : fault ≠ .validationFailed reported := by
          rintro rfl
          exact answers reported failed
        exact ⟨(strictly_eq_error_iff other).mpr failed, other⟩
      · rintro ⟨failed, other⟩
        exact (strictly_eq_error_iff other).mp failed
  · have refused : lenient = ⟨.error .alreadyPersisted, p, passes, .start store, [], []⟩ :=
      write_of_written written passes _
    by_cases valid : p.failures (passes + 1) = []
    · have found : strict = ⟨.error .alreadyPersisted, p, passes + 1, .start store, [], []⟩ :=
        writeStrict_of_written written valid _
      rw [refused, found]
      exact ⟨⟨rfl, rfl, rfl⟩, ⟨rfl, rfl, rfl⟩, rfl, iff_of_true rfl valid, (absurd valid ·)⟩
    · have reported : strict = ⟨.error (.validationFailed failures), p, passes + 1, .start store,
          [], []⟩ :=
        writeStrict_of_failures valid _
      rw [refused, reported]
      exact ⟨⟨rfl, rfl, rfl⟩, ⟨rfl, rfl, rfl⟩, rfl, iff_of_false nofun valid, fun _ => rfl⟩
  · rw [← Measurement.validators_ofDeclarations series, ← declared]

/-- A datastore that is down gives both the same answer and leaves the point dated. -/
theorem writes_agree_down :
    let date : Hook := ⟨"date", fun _ => [.stamp ⟨1, 0⟩]⟩
    let m := Measurement.ofDeclarations (.name "cpu")
      [.values ["load"], .tags ["host"], .presence ["load", "host"], .before date]
    let p : Point := { new m with attributes := .ofList [("host", .str "a"), ("load", .int 3)] }
    let store := MemoryStore.new .seconds MemoryStore.noPoints true
    let lenient := p.write 0 (Observed.start store)
    let strict := p.writeStrict 0 (Observed.start store)
    (∀ check ∈ m.validators, check.Pure) ∧ p.persisted = false ∧
      strict.result = .error (.store .unavailable) ∧ strict.point.time = some ⟨1, 0⟩ ∧
      strict.point = lenient.point ∧ strict.store = lenient.store ∧ strict.runs = lenient.runs := by
  intro date m p store lenient strict
  have pure : ∀ check ∈ m.validators, check.Pure := by
    intro check mem
    rcases List.mem_cons.mp mem with rfl | mem
    · exact Validator.presence_pure "load"
    · rw [List.mem_singleton.mp mem]
      exact Validator.presence_pure "host"
  obtain ⟨-, -, agree, -⟩ := writes_agree (p := p) pure 0 store
  obtain ⟨left, -, -, faults⟩ := agree rfl
  have down : lenient.result = .error (.store .unavailable) := rfl
  exact ⟨pure, rfl, ((faults _).mp down).1, left.1 ▸ rfl, left⟩

end Point

end Telemetry
