import Telemetry.Json

/-!
# Instants and their precision

An instant is a number of whole seconds since the epoch, of either sign, and the nanoseconds after
them. A store counts time in seconds, milliseconds or microseconds: an instant is expressed by the
greatest whole number of units not after it.
-/

namespace Telemetry

structure Instant where
  seconds : Int
  nanos : Fin 1000000000
deriving DecidableEq

inductive Precision where
  | seconds
  | milliseconds
  | microseconds
deriving DecidableEq, Repr

namespace Precision

instance : Inhabited Precision := ⟨seconds⟩

def all : List Precision := [seconds, milliseconds, microseconds]

def suffix : Precision → String
  | seconds => "s"
  | milliseconds => "ms"
  | microseconds => "u"

/-- Reads a suffix leniently: microseconds have two, and what is no suffix means seconds. -/
def ofSuffix : String → Precision
  | "ms" => milliseconds
  | "u" | "us" => microseconds
  | _ => seconds

/-- Reads a suffix strictly. -/
def ofSuffix? (text : String) : Option Precision :=
  all.find? fun p => p.suffix == text

/-- A precision in a document: its suffix, or an object with the suffix as its one key and no
value. -/
def ofJson? : Json → Option Precision
  | .str text => ofSuffix? text
  | .obj [(text, .null)] => ofSuffix? text
  | _ => none

def perSecond : Precision → Nat
  | seconds => 1
  | milliseconds => 1000
  | microseconds => 1000000

def scale (p : Precision) (t : Instant) : Int :=
  t.seconds * p.perSecond + (t.nanos.val * p.perSecond / 1000000000 : Nat)

theorem ofSuffix_suffix (p : Precision) : ofSuffix p.suffix = p := by
  cases p <;> rfl

end Precision

end Telemetry
