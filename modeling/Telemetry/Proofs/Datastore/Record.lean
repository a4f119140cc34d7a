import Mathlib.Data.List.DropRight
import Mathlib.Data.List.Forall2
import Telemetry.Proofs.Point.Attempt
import Telemetry.Relation.Run

/-!
# The record of a datastore in memory

Relations are run and points are written through one datastore in memory, in any order, and now and
then it is cleared. What it holds then is exactly what it was sent since. Of statements it holds one
for each relation that was run, unless the relation has a rejection, and whether or not its document
could be read as a response. Of points it holds one for each write that was answered with success,
under the name and with the payload of the point as the last hook before left it, and none for a
write that was refused or failed.
-/

namespace Telemetry

/-- The ways to run a relation. -/
inductive Question where
  | load
  | isEmpty
  | isPresent
  | inspect
  | deleteAll

/-- What is written: a point as it stands, or the attributes of a new point of a relation. -/
inductive Draft where
  | point (p : Point)
  | attributes (r : Relation) (pairs : List (String × Json))

inductive Step where
  | ask (question : Question) (r : Relation)
  | write (draft : Draft) (passes : Nat)
  | writeStrict (draft : Draft) (passes : Nat)
  | clear

inductive Answer where
  | points (result : Except Fault (List Json))
  | told (result : Except Fault Bool)
  | text (result : Except Fault String)
  | written (result : Except Fault Bool)
  | writtenStrictly (result : Except Fault Unit)
  | cleared

/-- Whether the answer is that a point was written. -/
def Answer.success : Answer → Bool
  | written (.ok true) | writtenStrictly (.ok ()) => true
  | _ => false

/-- Why a step failed. -/
def Answer.fault? : Answer → Option Fault
  | points (.error fault) | told (.error fault) | text (.error fault) | written (.error fault)
  | writtenStrictly (.error fault) => some fault
  | _ => none

namespace Question

def statement (r : Relation) : Question → Except Rejection String
  | deleteAll => r.toDelete
  | _ => r.toSelect

def ask (r : Relation) (store : MemoryStore) : Question → Answer × MemoryStore
  | load => (.points (r.load store).result, (r.load store).store)
  | isEmpty => (.told (r.isEmpty store).result, (r.isEmpty store).store)
  | isPresent => (.told (r.isPresent store).result, (r.isPresent store).store)
  | inspect => (.text (r.inspect store).result, (r.inspect store).store)
  | deleteAll => (.text (r.deleteAll store).result, (r.deleteAll store).store)

end Question

namespace Draft

def point? : Draft → Except Fault Point
  | point p => .ok p
  | attributes r pairs => r.build pairs

def write (passes : Nat) (store : MemoryStore) : Draft → Answer × MemoryStore
  | point p => (.written (p.write passes store).result, (p.write passes store).store)
  | attributes r pairs =>
    match r.write pairs passes store with
    | .error fault => (.written (.error fault), store)
    | .ok attempt => (.written attempt.result, attempt.store)

def writeStrict (passes : Nat) (store : MemoryStore) : Draft → Answer × MemoryStore
  | point p =>
    (.writtenStrictly (p.writeStrict passes store).result, (p.writeStrict passes store).store)
  | attributes r pairs =>
    match r.writeStrict pairs passes store with
    | .error fault => (.writtenStrictly (.error fault), store)
    | .ok attempt => (.writtenStrictly attempt.result, attempt.store)

end Draft

namespace Step

def perform (store : MemoryStore) : Step → Answer × MemoryStore
  | ask question r => question.ask r store
  | write draft passes => draft.write passes store
  | writeStrict draft passes => draft.writeStrict passes store
  | clear => (.cleared, store.clear)

def isClear : Step → Bool
  | clear => true
  | _ => false

/-- Whether the step runs a relation that has no rejection. -/
def runs : Step → Bool
  | ask _ r => r.rejection.isNone
  | _ => false

/-- The text is the statement that the step runs a relation by. -/
def States (step : Step) (text : String) : Prop :=
  ∃ question r, step = ask question r ∧ question.statement r = .ok text

/-- The step writes a point that the hooks before leave with this name and this payload. -/
def Sends (precision : Precision) (step : Step) (sent : String × Payload) : Prop :=
  ∃ draft passes p, (step = write draft passes ∨ step = writeStrict draft passes) ∧
    draft.point? = .ok p ∧
    p.measurement.series.writeName? (some p.readied.toSample) = some sent.1 ∧
    sent.2 = p.readied.payload precision

end Step

/-- A step and what it was answered. -/
structure Performed where
  step : Step
  answer : Answer

structure Session where
  store : MemoryStore
  done : List Performed

namespace Session

def start (store : MemoryStore) : Session := ⟨store, []⟩

def take (session : Session) (step : Step) : Session :=
  let (answer, store) := step.perform session.store
  ⟨store, session.done ++ [⟨step, answer⟩]⟩

def run (session : Session) (steps : List Step) : Session := steps.foldl take session

/-- What was done since the datastore was cleared. -/
def recent (session : Session) : List Performed :=
  session.done.rtakeWhile fun performed => !performed.step.isClear

end Session

namespace Relation

theorem dispatch_store (note : String) (statement : Except Rejection String)
    (store : MemoryStore) :
    (dispatch note statement store).store = match statement with
      | .error _ => store
      | .ok text => { store with queries := store.queries ++ [text] } := by
  cases statement <;> rfl

end Relation

namespace Question

variable {r : Relation}

theorem statement_of_unrejected (h : r.rejection = none) (question : Question) :
    ∃ text, question.statement r = .ok text := by
  have select : r.toSelect = .ok r.selectStatement := by rw [Relation.toSelect, h]
  have delete : r.toDelete = .ok r.deleteStatement := by rw [Relation.toDelete, h]
  cases question with
  | deleteAll => exact ⟨_, delete⟩
  | _ => exact ⟨_, select⟩

theorem statement_of_rejected {rejection : Rejection} (h : r.rejection = some rejection)
    (question : Question) : question.statement r = .error rejection := by
  have select : r.toSelect = .error rejection := by rw [Relation.toSelect, h]
  have delete : r.toDelete = .error rejection := by rw [Relation.toDelete, h]
  cases question with
  | deleteAll => exact delete
  | _ => exact select

theorem ask_store (question : Question) (r : Relation) (store : MemoryStore) :
    (question.ask r store).2 = match question.statement r with
      | .error _ => store
      | .ok text => { store with queries := store.queries ++ [text] } := by
  cases question with
  | deleteAll => exact Relation.dispatch_store _ r.toDelete store
  | _ => exact Relation.dispatch_store _ r.toSelect store

theorem ask_unsuccessful (question : Question) (r : Relation) (store : MemoryStore) :
    (question.ask r store).1.success = false := by
  cases question <;> rfl

end Question

namespace MemoryStore

variable {store : MemoryStore}

theorem write_of_refusing (h : store.refuses = true) (name : String) (payload : Payload) :
    Datastore.write store name payload = ⟨.error .unavailable, store, []⟩ :=
  if_pos h

theorem write_of_taking (h : store.refuses = false) (name : String) (payload : Payload) :
    Datastore.write store name payload =
      ⟨.ok (), { store with writes := store.writes ++ [(name, payload)] }, []⟩ :=
  if_neg (Bool.eq_false_iff.mp h)

variable {name : String} {payload : Payload}

theorem write_of_error {error : StoreError}
    (failed : (Datastore.write store name payload).result = .error error) :
    (Datastore.write store name payload).store = store := by
  by_cases refuses : store.refuses = true
  · exact congrArg Exchange.store (write_of_refusing refuses name payload)
  · rw [write_of_taking (Bool.eq_false_iff.mpr refuses)] at failed
    cases failed

theorem write_of_ok (taken : (Datastore.write store name payload).result = .ok ()) :
    (Datastore.write store name payload).store =
      { store with writes := store.writes ++ [(name, payload)] } := by
  by_cases refuses : store.refuses = true
  · rw [write_of_refusing refuses] at taken
    cases taken
  · exact congrArg Exchange.store (write_of_taking (Bool.eq_false_iff.mpr refuses) name payload)

end MemoryStore

/-- What a write leaves in the store, by whether it was a success. -/
inductive Point.Leaves (p : Point) (store : MemoryStore) : Bool → MemoryStore → Prop
  | untaken : Leaves p store false store
  | taken {name : String}
      (named : p.measurement.series.writeName? (some p.readied.toSample) = some name) :
      Leaves p store true
        { store with writes := store.writes ++ [(name, p.readied.payload store.precision)] }

namespace Point

variable {p : Point}

theorem send_leaves (unwritten : p.persisted = false) (passes : Nat) (store : MemoryStore) :
    p.Leaves store (Answer.written (p.send passes store).result).success
      (p.send passes store).store := by
  refine send_cases (fun _ _ => ?_) (fun name payload error _ failed => ?_)
    fun name payload prepared taken => ?_
  · exact .untaken
  · rw [MemoryStore.write_of_error failed]
    exact .untaken
  · obtain ⟨named, rfl⟩ := named_of_prepared (readied_persisted unwritten) prepared
    rw [MemoryStore.write_of_ok taken]
    rw [p.readied_continues.measurement] at named
    exact .taken named

theorem write_leaves (p : Point) (passes : Nat) (store : MemoryStore) :
    p.Leaves store (Answer.written (p.write passes store).result).success
      (p.write passes store).store := by
  refine write_cases (fun _ => ?_) (fun _ _ => ?_) fun unwritten _ => ?_
  · exact .untaken
  · exact .untaken
  · exact send_leaves unwritten (passes + 1) store

theorem writeStrict_leaves (p : Point) (passes : Nat) (store : MemoryStore) :
    p.Leaves store (Answer.writtenStrictly (p.writeStrict passes store).result).success
      (p.writeStrict passes store).store := by
  by_cases valid : p.failures (passes + 1) = []
  · have lenient := p.write_leaves (passes + 1) store
    rw [writeStrict, valid]
    cases answer : (p.write (passes + 1) store).result with
    | error fault =>
      rw [answer] at lenient
      simp only [answer]
      exact lenient
    | ok taken =>
      rw [answer] at lenient
      cases taken <;> simp only [answer] <;> exact lenient
  · rw [writeStrict_of_failures valid]
    exact .untaken

end Point

section

variable {α β : Type} {keep : α → Bool} {R : α → β → Prop} {a : α} {b : β}

theorem forall₂_filter_of_dropped (dropped : keep a = false) :
    List.Forall₂ R ([a].filter keep) [] := by
  rw [List.filter_singleton, dropped]
  exact .nil

theorem forall₂_filter_of_kept (kept : keep a = true) (related : R a b) :
    List.Forall₂ R ([a].filter keep) [b] := by
  rw [List.filter_singleton, kept]
  exact .cons related .nil

end

/-- What is done adds to the store. -/
structure Performed.Adds (d : Performed) (before after : MemoryStore) : Prop where
  precision : after.precision = before.precision
  response : after.response = before.response
  queries : ∃ queries, after.queries = before.queries ++ queries ∧
    List.Forall₂ (fun d text => d.step.States text) ([d].filter (·.step.runs)) queries
  writes : ∃ writes, after.writes = before.writes ++ writes ∧
    List.Forall₂ (fun d sent => d.step.Sends before.precision sent)
      ([d].filter (·.answer.success)) writes

namespace Performed

variable {d : Performed} {store after : MemoryStore}

theorem adds_nothing (idle : d.step.runs = false) (untaken : d.answer.success = false) :
    d.Adds store store :=
  ⟨rfl, rfl, ⟨[], (List.append_nil _).symm, forall₂_filter_of_dropped idle⟩,
    [], (List.append_nil _).symm, forall₂_filter_of_dropped untaken⟩

theorem adds_of_leaves {draft : Draft} {passes : Nat} {p : Point}
    (writes : d.step = .write draft passes ∨ d.step = .writeStrict draft passes)
    (made : draft.point? = .ok p) (leaves : p.Leaves store d.answer.success after) :
    d.Adds store after := by
  have idle : d.step.runs = false := by
    rcases writes with step | step <;> rw [step] <;> rfl
  generalize success : d.answer.success = answered at leaves
  cases leaves with
  | untaken => exact adds_nothing idle success
  | @taken name named =>
    exact ⟨rfl, rfl, ⟨[], (List.append_nil _).symm, forall₂_filter_of_dropped idle⟩,
      [(name, p.readied.payload store.precision)], rfl,
      forall₂_filter_of_kept success ⟨draft, passes, p, writes, made, named, rfl⟩⟩

theorem adds_ask (question : Question) (r : Relation) (store : MemoryStore) :
    Adds ⟨.ask question r, (question.ask r store).1⟩ store (question.ask r store).2 := by
  have untaken := question.ask_unsuccessful r store
  rw [question.ask_store]
  cases rejected : r.rejection with
  | some rejection =>
    rw [question.statement_of_rejected rejected]
    refine adds_nothing ?_ untaken
    rw [Step.runs, rejected]
    rfl
  | none =>
    obtain ⟨text, stated⟩ := question.statement_of_unrejected rejected
    have runs : (Step.ask question r).runs = true := by
      rw [Step.runs, rejected]
      rfl
    rw [stated]
    exact ⟨rfl, rfl,
      ⟨[text], rfl, forall₂_filter_of_kept runs ⟨question, r, rfl, stated⟩⟩,
      [], (List.append_nil _).symm, forall₂_filter_of_dropped untaken⟩

theorem adds_write (draft : Draft) (passes : Nat) (store : MemoryStore) :
    Adds ⟨.write draft passes, (draft.write passes store).1⟩ store
      (draft.write passes store).2 := by
  cases draft with
  | point p => exact adds_of_leaves (Or.inl rfl) rfl (p.write_leaves passes store)
  | attributes r pairs =>
    rw [Draft.write, Relation.write]
    cases made : r.build pairs with
    | error fault => exact adds_nothing rfl rfl
    | ok p => exact adds_of_leaves (Or.inl rfl) made (p.write_leaves passes store)

theorem adds_writeStrict (draft : Draft) (passes : Nat) (store : MemoryStore) :
    Adds ⟨.writeStrict draft passes, (draft.writeStrict passes store).1⟩ store
      (draft.writeStrict passes store).2 := by
  cases draft with
  | point p => exact adds_of_leaves (Or.inr rfl) rfl (p.writeStrict_leaves passes store)
  | attributes r pairs =>
    rw [Draft.writeStrict, Relation.writeStrict]
    cases made : r.build pairs with
    | error fault => exact adds_nothing rfl rfl
    | ok p => exact adds_of_leaves (Or.inr rfl) made (p.writeStrict_leaves passes store)

theorem adds_perform {step : Step} (uncleared : step.isClear = false) (store : MemoryStore) :
    Adds ⟨step, (step.perform store).1⟩ store (step.perform store).2 := by
  cases step with
  | ask question r => exact adds_ask question r store
  | write draft passes => exact adds_write draft passes store
  | writeStrict draft passes => exact adds_writeStrict draft passes store
  | clear => cases uncleared

end Performed

theorem MemoryStore.query_of_malformed {store : MemoryStore}
    (malformed : Response.ofJson? store.response = none) (text : String) :
    (Datastore.query store text).result = .error .malformedResponse := by
  change (store.query text).result = _
  rw [query, malformed]

theorem Relation.dispatch_malformed {store : MemoryStore}
    (malformed : Response.ofJson? store.response = none) (note text : String) :
    (dispatch note (.ok text) store).result = .error (.store .malformedResponse) := by
  change ((Datastore.query store text).result.map (text, ·)).mapError Fault.store = _
  rw [MemoryStore.query_of_malformed malformed]
  rfl

theorem Question.fault_of_malformed {r : Relation} {store : MemoryStore}
    (malformed : Response.ofJson? store.response = none) (unrejected : r.rejection = none)
    (question : Question) :
    (question.ask r store).1.fault? = some (.store .malformedResponse) := by
  have fetched : (r.fetch store).result = .error (.store .malformedResponse) := by
    rw [Relation.fetch, Relation.toSelect, unrejected, Fetched.map,
      Relation.dispatch_malformed malformed]
    rfl
  have loaded : (r.load store).result = .error (.store .malformedResponse) := by
    rw [Relation.load, Fetched.map, fetched]
    rfl
  have empty : (r.isEmpty store).result = .error (.store .malformedResponse) := by
    rw [Relation.isEmpty, Fetched.map, fetched]
    rfl
  cases question with
  | load => rw [ask, loaded, Answer.fault?]
  | isEmpty => rw [ask, empty, Answer.fault?]
  | isPresent =>
    rw [ask, Relation.isPresent, Fetched.map, empty]
    rfl
  | inspect =>
    rw [ask, Relation.inspect, Fetched.map, loaded]
    rfl
  | deleteAll =>
    rw [ask, Relation.deleteAll, Relation.toDelete, unrejected, Fetched.map,
      Relation.dispatch_malformed malformed]
    rfl

theorem Step.fault_of_malformed {step : Step} {store : MemoryStore}
    (malformed : Response.ofJson? store.response = none) (runs : step.runs = true) :
    (step.perform store).1.fault? = some (.store .malformedResponse) := by
  cases step with
  | ask question r =>
    have unrejected : r.rejection = none := Option.isNone_iff_eq_none.mp runs
    exact question.fault_of_malformed malformed unrejected
  | _ => cases runs

namespace Session

theorem done_take (session : Session) (step : Step) :
    (session.take step).done =
      session.done ++ [⟨step, (step.perform session.store).1⟩] :=
  rfl

theorem store_take (session : Session) (step : Step) :
    (session.take step).store = (step.perform session.store).2 :=
  rfl

theorem steps_run (session : Session) (steps : List Step) :
    (session.run steps).done.map (·.step) = session.done.map (·.step) ++ steps := by
  induction steps generalizing session with
  | nil => exact (List.append_nil _).symm
  | cons step rest ih =>
    rw [run, List.foldl_cons, ← run, ih, done_take, List.map_append, List.append_assoc]
    rfl

/-- What a session keeps: its store has the statements and the points of what was done since it was
cleared, and has answered every relation that was run with the same document. -/
structure Records (precision : Precision) (response : Json) (session : Session) : Prop where
  precision_eq : session.store.precision = precision
  response_eq : session.store.response = response
  queries : List.Forall₂ (fun d text => d.step.States text)
    (session.recent.filter (·.step.runs)) session.store.queries
  writes : List.Forall₂ (fun d sent => d.step.Sends precision sent)
    (session.recent.filter (·.answer.success)) session.store.writes
  malformed : Response.ofJson? response = none → ∀ d ∈ session.done, d.step.runs = true →
    d.answer.fault? = some (.store .malformedResponse)

variable {precision : Precision} {response : Json} {session : Session}

theorem recent_take_clear (session : Session) : (session.take .clear).recent = [] :=
  List.rtakeWhile_concat_neg _ _ _ Bool.false_ne_true

theorem recent_take {step : Step} (uncleared : step.isClear = false) (session : Session) :
    (session.take step).recent =
      session.recent ++ [⟨step, (step.perform session.store).1⟩] :=
  List.rtakeWhile_concat_pos _ _ _ (by rw [uncleared]; rfl)

theorem Records.malformed_take (h : session.Records precision response) (step : Step)
    (malformed : Response.ofJson? response = none) :
    ∀ d ∈ (session.take step).done, d.step.runs = true →
      d.answer.fault? = some (.store .malformedResponse) := by
  intro d mem runs
  rcases List.mem_append.mp mem with before | now
  · exact h.malformed malformed d before runs
  · obtain rfl := List.mem_singleton.mp now
    exact Step.fault_of_malformed (h.response_eq ▸ malformed) runs

theorem Records.take (h : session.Records precision response) (step : Step) :
    (session.take step).Records precision response := by
  by_cases clear : step.isClear = true
  · cases step with
    | clear =>
      refine ⟨h.precision_eq, h.response_eq, ?_, ?_, h.malformed_take .clear⟩
      · rw [recent_take_clear]
        exact .nil
      · rw [recent_take_clear]
        exact .nil
    | _ => cases clear
  · have uncleared : step.isClear = false := Bool.eq_false_iff.mpr clear
    obtain ⟨samePrecision, sameResponse, ⟨queries, queriesAdded, stated⟩,
      writes, writesAdded, sent⟩ := Performed.adds_perform uncleared session.store
    refine ⟨samePrecision.trans h.precision_eq, sameResponse.trans h.response_eq, ?_, ?_,
      h.malformed_take step⟩
    · rw [recent_take uncleared, List.filter_append, store_take, queriesAdded]
      exact List.rel_append h.queries stated
    · rw [recent_take uncleared, List.filter_append, store_take, writesAdded]
      exact List.rel_append h.writes (h.precision_eq ▸ sent)

theorem Records.run (h : session.Records precision response) (steps : List Step) :
    (session.run steps).Records precision response := by
  induction steps generalizing session with
  | nil => exact h
  | cons step rest ih => exact ih (h.take step)

/-- Whatever is done, the datastore holds the statement of each relation without rejection that was
run since it was cleared, and what was sent in each write since then that was a success, both in
order and nothing else. This holds also if its document is no response, when every relation that is
run fails. -/
theorem record_of_run (precision : Precision) (response : Json) (refuses : Bool)
    (steps : List Step) :
    let session := (start (.new precision response refuses)).run steps
    session.done.map (·.step) = steps ∧
    List.Forall₂ (fun d text => d.step.States text)
      (session.recent.filter (·.step.runs)) session.store.queries ∧
    List.Forall₂ (fun d sent => d.step.Sends precision sent)
      (session.recent.filter (·.answer.success)) session.store.writes ∧
    (Response.ofJson? response = none → ∀ d ∈ session.done, d.step.runs = true →
      d.answer.fault? = some (.store .malformedResponse)) := by
  intro session
  have started : (start (.new precision response refuses)).Records precision response :=
    ⟨rfl, rfl, .nil, .nil, fun _ _ mem => absurd mem List.not_mem_nil⟩
  have records : session.Records precision response := started.run steps
  exact ⟨steps_run _ steps, records.queries, records.writes, records.malformed⟩

example :
    let cpu := Relation.new (.new (.name "cpu"))
    let rejected := cpu.apply (.filter false "load" (.list []))
    let session := (start (.new .seconds .null false)).run
      [.ask .inspect cpu, .clear, .ask .load cpu, .ask .load rejected, .ask .deleteAll cpu]
    session.store.queries = ["select * from \"cpu\"", "delete from \"cpu\""] :=
  rfl

end Session

end Telemetry
