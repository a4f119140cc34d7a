import Telemetry.Point
import Telemetry.Relation

/-!
# Running relations

A relation is run by the statement it stands for. One with a rejection is not run: the rejection is
the answer and the datastore is not reached. A relation also builds points of its measurement and
writes them at once. Attributes that do not build a point come to no write.
-/

namespace Telemetry

structure Fetched (σ α : Type) where
  result : Except Fault α
  store : σ
  journal : List Journal.Entry

def Fetched.map {σ α β : Type} (f : α → β) (fetched : Fetched σ α) : Fetched σ β :=
  { fetched with result := fetched.result.map f }

namespace Relation

def journalTarget : String := "seriesql::query::relation"

variable {σ : Type} [Datastore σ]

/-- Sends a statement, if there is one, under a note in the journal. -/
def dispatch (note : String) (statement : Except Rejection String) (store : σ) :
    Fetched σ (String × Response) :=
  match statement with
  | .error rejection => ⟨.error (.query rejection), store, []⟩
  | .ok text =>
    let answer := Datastore.query store text
    ⟨(answer.result.map (text, ·)).mapError .store, answer.store,
      ⟨.debug, journalTarget, note, [("query", .str text)]⟩ :: answer.journal⟩

def fetch (r : Relation) (store : σ) : Fetched σ Response :=
  (dispatch "Running query" r.toSelect store).map (·.2)

def load (r : Relation) (store : σ) : Fetched σ (List Json) :=
  (r.fetch store).map Response.allPoints

def isEmpty (r : Relation) (store : σ) : Fetched σ Bool :=
  (r.fetch store).map Response.isEmpty

def isPresent (r : Relation) (store : σ) : Fetched σ Bool :=
  (r.isEmpty store).map not

/-- Deletes the points of the relation and answers the statement that was sent. -/
def deleteAll (r : Relation) (store : σ) : Fetched σ String :=
  (dispatch "Deleting points" r.toDelete store).map (·.1)

/-- How many points a description shows. -/
def shownPoints : Nat := 10

def describePoints (points : List Json) : String :=
  let shown := (points.take shownPoints).map Json.text
  let more := if points.length > shownPoints then ["..."] else []
  "#<Relation " ++ Text.inspectList (shown ++ more) ++ ">"

def inspect (r : Relation) (store : σ) : Fetched σ String :=
  (r.load store).map describePoints

def build (r : Relation) (pairs : List (String × Json)) : Except Fault Point :=
  Point.ofAttributes r.measurement pairs

def write (r : Relation) (pairs : List (String × Json)) (passes : Nat) (store : σ) :
    Except Fault (Attempt σ Bool) :=
  (r.build pairs).map fun point => point.write passes store

def writeStrict (r : Relation) (pairs : List (String × Json)) (passes : Nat) (store : σ) :
    Except Fault (Attempt σ Unit) :=
  (r.build pairs).map fun point => point.writeStrict passes store

end Relation

end Telemetry
