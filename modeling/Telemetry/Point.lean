import Telemetry.Datastore
import Telemetry.Measurement

/-!
# Points

A point is a sample of a measurement. Its attributes are declared tags and values, so the two split
them without loss; an undeclared name is refused and changes nothing.

A write goes through validation, the hooks before, encoding, the datastore and the hooks after, and
stops at the first of them that fails. Hooks before may change what is encoded; the point counts as
written as soon as the datastore has taken it, so the hooks after already see it so. A point is
written at most once.

The lenient write answers whether the point passed validation; the strict one validates first and
fails with the failures.
-/

namespace Telemetry

inductive Fault where
  | alreadyPersisted
  | validationFailed (failures : List Failure)
  | unknownAttribute (series name : String)
  | unwritableSeries (series : String)
  | query (rejection : Rejection)
  | store (error : StoreError)
deriving DecidableEq, Repr

def Fault.message : Fault → String
  | alreadyPersisted => "Point has already been written"
  | validationFailed failures =>
    "Validation failed: " ++ ", ".intercalate (failures.map Failure.text)
  | unknownAttribute series name => "Unknown attribute '" ++ name ++ "' for series " ++ series
  | unwritableSeries series => "Cannot write to series " ++ series
  | query rejection => "Query error: " ++ rejection.message
  | store error => error.message

structure Point extends Sample where
  measurement : Measurement

namespace Point

def new (m : Measurement) : Point := { Sample.empty with measurement := m }

/-- The series of a point, as statements write it. -/
def series (p : Point) : String := p.measurement.series.quoted (some p.toSample)

def set (p : Point) (name : String) (value : Json) : Except Fault Point :=
  if p.measurement.isAttribute name then .ok { p with toSample := p.toSample.set name value }
  else .error (.unknownAttribute p.series name)

def stamp (p : Point) (time : Instant) : Point := { p with toSample := p.toSample.stamp time }

/-- A point with attributes set in order, up to the first that is refused. -/
def ofAttributes (m : Measurement) (pairs : List (String × Json)) : Except Fault Point :=
  pairs.foldlM (fun p pair => p.set pair.1 pair.2) (new m)

def tags (p : Point) : Keyed Json := p.attributes.filter p.measurement.isTag

def values (p : Point) : Keyed Json := p.attributes.filter p.measurement.isValue

/-- A fresh point of the same attributes, with no time and not written yet. -/
def duplicate (p : Point) : Point := { p with time := none, persisted := false }

def failures (p : Point) (pass : Nat) : List Failure := p.measurement.failures pass p.toSample

def encode (p : Point) (precision : Precision) : Except Fault Payload :=
  if p.persisted then .error .alreadyPersisted
  else .ok ⟨p.values, p.tags, p.time.map precision.scale⟩

end Point

inductive Moment where
  | before
  | after
deriving DecidableEq, Repr

structure HookRun where
  moment : Moment
  hook : String
  /-- Whether the point was written when the hook began. -/
  persisted : Bool
  refusals : List Fault

structure Attempt (σ α : Type) where
  result : Except Fault α
  point : Point
  /-- Validation passes of the measurement so far. -/
  passes : Nat
  store : σ
  runs : List HookRun
  journal : List Journal.Entry

namespace Point

/-- A refused action leaves the point as it was. -/
def act (p : Point) : Action → Point × Option Fault
  | .stamp time => (p.stamp time, none)
  | .set name value =>
    match p.set name value with
    | .ok changed => (changed, none)
    | .error fault => (p, some fault)

def actAll (p : Point) : List Action → Point × List Fault
  | [] => (p, [])
  | action :: rest =>
    let (changed, refusal) := p.act action
    let (final, refusals) := actAll changed rest
    (final, refusal.toList ++ refusals)

def runHook (moment : Moment) (hook : Hook) (p : Point) : Point × HookRun :=
  let (changed, refusals) := p.actAll (hook.actions p.toSample)
  (changed, ⟨moment, hook.name, p.persisted, refusals⟩)

def runHooks (moment : Moment) : List Hook → Point → Point × List HookRun
  | [], p => (p, [])
  | hook :: rest, p =>
    let (changed, run) := p.runHook moment hook
    let (final, runs) := runHooks moment rest changed
    (final, run :: runs)

/-- The name to write to and what is sent there. -/
def prepare (p : Point) (precision : Precision) : Except Fault (String × Payload) :=
  match p.measurement.series.writeName? (some p.toSample) with
  | none => .error (.unwritableSeries p.series)
  | some name => (p.encode precision).map (name, ·)

def journalTarget : String := "seriesql::metrics::point"

def refusedEntry (p : Point) (failures : List Failure) : Journal.Entry :=
  ⟨.warn, journalTarget, "Point failed validation, not written",
    [("series", .str p.series), ("errors", .int failures.length)]⟩

def writingEntry (name : String) : Journal.Entry :=
  ⟨.debug, journalTarget, "Writing point", [("series", .str name)]⟩

variable {σ : Type} [Datastore σ]

/-- Sends a point that has passed validation. -/
def send (p : Point) (passes : Nat) (store : σ) : Attempt σ Bool :=
  let (ready, runs) := runHooks .before p.measurement.before p
  match ready.prepare (Datastore.precision store) with
  | .error fault => ⟨.error fault, ready, passes, store, runs, []⟩
  | .ok (name, payload) =>
    let sent := Datastore.write store name payload
    let journal := writingEntry name :: sent.journal
    match sent.result with
    | .error error => ⟨.error (.store error), ready, passes, sent.store, runs, journal⟩
    | .ok () =>
      let (final, later) :=
        runHooks .after p.measurement.after { ready with persisted := true }
      ⟨.ok true, final, passes, sent.store, runs ++ later, journal⟩

def write (p : Point) (passes : Nat) (store : σ) : Attempt σ Bool :=
  if p.persisted then ⟨.error .alreadyPersisted, p, passes, store, [], []⟩
  else match p.failures (passes + 1) with
    | [] => p.send (passes + 1) store
    | failures => ⟨.ok false, p, passes + 1, store, [], [p.refusedEntry failures]⟩

def writeStrict (p : Point) (passes : Nat) (store : σ) : Attempt σ Unit :=
  match p.failures (passes + 1) with
  | [] =>
    let attempt := p.write (passes + 1) store
    match attempt.result with
    | .error fault => { attempt with result := .error fault }
    | .ok true => { attempt with result := .ok () }
    | .ok false =>
      let failures := attempt.point.failures (attempt.passes + 1)
      { attempt with
        result := .error (.validationFailed failures)
        passes := attempt.passes + 1 }
  | failures => ⟨.error (.validationFailed failures), p, passes + 1, store, [], []⟩

end Point

end Telemetry
