import Telemetry.Instant
import Telemetry.Journal

/-!
# Datastores

What points are written through and statements are run by: a datastore has a precision of time,
takes one point at a time under the bare name of its series, and answers statements. Each exchange
leaves the datastore in a new state and may be noted in the journal. Nothing is retried.

What is sent for a point is its values, its tags, and its time in the precision of the datastore. A
response is a flat list of points, or points keyed by series. A document with an array `points` is
the former, whatever else it holds; any other object of arrays is the latter.

The datastore in memory keeps the statements and the points it was sent, in order, and answers every
statement with one document. A statement is kept also when that document is no response. It may be
set to refuse points, which are then not kept.
-/

namespace Telemetry

structure Payload where
  values : Keyed Json
  tags : Keyed Json
  timestamp : Option Int

/-- A payload as a document; a time that is not set is left out. -/
def Payload.json (p : Payload) : Json :=
  .obj ([("values", .object p.values), ("tags", .object p.tags)]
    ++ (p.timestamp.map fun t => ("timestamp", .int t)).toList)

inductive StoreError where
  | unavailable
  | timeout
  | badAddress
  | connectionLost
  | api (status : Nat) (body : String)
  /-- The body is no list of rows. -/
  | unreadableBody
  /-- The document is no query response. -/
  | malformedResponse
  | emptyDatabase
deriving DecidableEq, Repr

def StoreError.message : StoreError → String
  | unavailable => "Datastore unavailable"
  | timeout => "Request timeout"
  | badAddress => "Request failed: the address is not absolute"
  | connectionLost => "Request failed: the connection was lost"
  | api status body => "API error " ++ toString status ++ ": " ++ body
  | unreadableBody => "Invalid response: the body is no list of rows"
  | malformedResponse =>
    "Invalid response: data did not match any variant of untagged enum QueryResponse"
  | emptyDatabase => "Invalid client configuration: database name is empty"

inductive Response where
  | points (points : List Json)
  | series (series : Keyed (List Json))

namespace Response

def empty : Response := .points []

/-- The members of an object that holds nothing but arrays. -/
def arrays? (members : List (String × Json)) : Option (List (String × List Json)) :=
  members.mapM fun (key, value) => value.items?.map (key, ·)

/-- Reads a document whose objects are in key order. -/
def ofJson? : Json → Option Response
  | .obj members =>
    match Json.member? members "points" with
    | some (.arr items) => some (.points items)
    | _ => (arrays? members).map fun entries => .series (Keyed.ofList entries)
  | _ => none

def toJson : Response → Json
  | .points items => .obj [("points", .arr items)]
  | .series table => .obj (table.entries.map fun (key, items) => (key, .arr items))

/-- All points, series by series. -/
def allPoints : Response → List Json
  | .points items => items
  | .series table => table.values.flatten

/-- The points where they stand in the response. -/
def pointsInPlace : Response → List Json
  | .points items => items
  | .series table => table.entries.flatMap (·.2)

def isEmpty : Response → Bool
  | .points items => items.isEmpty
  | .series table => table.values.all List.isEmpty

end Response

structure Exchange (σ α : Type) where
  result : Except StoreError α
  store : σ
  journal : List Journal.Entry

class Datastore (σ : Type) where
  precision : σ → Precision
  write : σ → String → Payload → Exchange σ Unit
  query : σ → String → Exchange σ Response

def Exchange.mapStore {σ τ α : Type} (f : σ → τ) (exchange : Exchange σ α) : Exchange τ α :=
  ⟨exchange.result, f exchange.store, exchange.journal⟩

/-- One datastore or another. -/
instance {σ τ : Type} [Datastore σ] [Datastore τ] : Datastore (σ ⊕ τ) where
  precision
    | .inl store => Datastore.precision store
    | .inr store => Datastore.precision store
  write
    | .inl store, name, payload => (Datastore.write store name payload).mapStore .inl
    | .inr store, name, payload => (Datastore.write store name payload).mapStore .inr
  query
    | .inl store, text => (Datastore.query store text).mapStore .inl
    | .inr store, text => (Datastore.query store text).mapStore .inr

structure MemoryStore where
  precision : Precision
  response : Json
  refuses : Bool
  queries : List String
  writes : List (String × Payload)

namespace MemoryStore

def new (precision : Precision) (response : Json) (refuses : Bool) : MemoryStore :=
  ⟨precision, response, refuses, [], []⟩

/-- The answer of a store that was given none: no points. -/
def noPoints : Json := Response.empty.toJson

def clear (s : MemoryStore) : MemoryStore := { s with queries := [], writes := [] }

def write (s : MemoryStore) (series : String) (payload : Payload) : Exchange MemoryStore Unit :=
  if s.refuses then ⟨.error .unavailable, s, []⟩
  else ⟨.ok (), { s with writes := s.writes ++ [(series, payload)] }, []⟩

def query (s : MemoryStore) (statement : String) : Exchange MemoryStore Response :=
  let result := match Response.ofJson? s.response with
    | some response => .ok response
    | none => .error .malformedResponse
  ⟨result, { s with queries := s.queries ++ [statement] }, []⟩

instance : Datastore MemoryStore where
  precision := MemoryStore.precision
  write := write
  query := query

end MemoryStore

end Telemetry
