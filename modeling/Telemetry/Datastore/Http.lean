import Telemetry.Datastore
import Telemetry.Datastore.Address
import Telemetry.Datastore.Rows
import Telemetry.Json
import Telemetry.Json.Read
import Telemetry.Settings
import Telemetry.Text.Classes

/-!
# The datastore behind HTTP

A point is posted as one series of one row, a statement is asked for in the query of the address.
Both go to the series of a database, with the precision of time as a parameter. The server is what
becomes of requests: a connection that is not made, no answer in time, an answer that breaks off, or
a reply.

The body of a reply is read to explain a failure and to answer a statement, not after a write that
succeeded. A blank body holds no points.
-/

namespace Telemetry

structure Request where
  method : String
  target : String
  contentType : Option String
  body : String
deriving DecidableEq, Repr

inductive Body where
  | whole (text : String)
  | cut
  | stalled
deriving DecidableEq, Repr

inductive Outcome where
  | reply (status : Nat) (body : Body)
  | lost
  | late
deriving DecidableEq, Repr

/-- A server that answers in turn and then empty bodies, if it can be reached at all. -/
structure Server where
  reachable : Bool
  outcomes : List Outcome
  received : List Request
deriving DecidableEq, Repr

structure HttpStore where
  settings : StoreSettings
  server : Server

namespace HttpStore

def journalTarget : String := "seriesql::client::http"

def new (settings : StoreSettings) (server : Server) : Except StoreError HttpStore :=
  if Text.allBlank settings.database then .error .emptyDatabase
  else .ok ⟨settings, server⟩

def clear (s : HttpStore) : HttpStore := { s with server := { s.server with received := [] } }

/-- The address of the series of the database. -/
def seriesUrl (settings : StoreSettings) : String :=
  let base := (settings.url.toList.reverse.dropWhile (· = '/')).reverse
  String.ofList base ++ "/db/" ++ settings.database ++ "/series"

def precisionParameter (s : HttpStore) : String × String :=
  ("time_precision", s.settings.precision.suffix)

def readBody : Body → Except StoreError String
  | .whole text => .ok text
  | .cut => .error .connectionLost
  | .stalled => .error .timeout

/-- A text less the byte order mark at its start. -/
def unmarked (text : String) : String :=
  match text.toList with
  | c :: rest => if c = '\uFEFF' then String.ofList rest else text
  | [] => text

def succeeded (status : Nat) : Bool := 200 ≤ status && status < 300

def failureEntry (status : Nat) : Journal.Entry :=
  ⟨.warn, journalTarget, "Datastore request failed", [("status", .int status)]⟩

/-- Sends a request and answers the body of a reply that succeeded, not read yet. -/
def exchange (s : HttpStore) (parameters : List (String × String))
    (request : String → Request) : Exchange HttpStore Body :=
  match (Address.ofText? (seriesUrl s.settings)).filter (·.isSendable parameters) with
  | none => ⟨.error .badAddress, s, []⟩
  | some address =>
    if !s.server.reachable then ⟨.error .unavailable, s, []⟩
    else
      let sent := { s with server :=
        { s.server with
          outcomes := s.server.outcomes.drop 1
          received := s.server.received ++ [request (address.target parameters)] } }
      match s.server.outcomes.headD (.reply 200 (.whole "")) with
      | .lost => ⟨.error .connectionLost, sent, []⟩
      | .late => ⟨.error .timeout, sent, []⟩
      | .reply status body =>
        if succeeded status then ⟨.ok body, sent, []⟩
        else
          let text := match readBody body with
            | .ok text => unmarked text
            | .error _ => ""
          ⟨.error (.api status text), sent, [failureEntry status]⟩

def write (s : HttpStore) (series : String) (payload : Payload) : Exchange HttpStore Unit :=
  let body := Json.arr [(SeriesRows.ofPayload series payload).toJson]
  let answer := s.exchange [s.precisionParameter]
    fun target => ⟨"POST", target, some "application/json", body.text⟩
  { answer with result := answer.result.map fun _ => () }

def decode (text : String) : Except StoreError Response × List Journal.Entry :=
  if Text.allBlank text then (.ok .empty, [])
  else
    match (Json.read? text).bind Json.items? |>.bind (·.mapM SeriesRows.ofJson?) with
    | none => (.error .unreadableBody, [])
    | some entries =>
      (.ok (SeriesRows.response entries),
        [⟨.debug, journalTarget, "Query response received", [("series", .int entries.length)]⟩])

def query (s : HttpStore) (statement : String) : Exchange HttpStore Response :=
  let answer := s.exchange [("q", statement), s.precisionParameter]
    fun target => ⟨"GET", target, none, ""⟩
  match answer.result.bind readBody with
  | .error error => { answer with result := .error error }
  | .ok text =>
    let (result, entries) := decode (unmarked text)
    ⟨result, answer.store, answer.journal ++ entries⟩

instance : Datastore HttpStore where
  precision s := s.settings.precision
  write := write
  query := query

end HttpStore

end Telemetry
