import Telemetry.Calculation
import Telemetry.Criterion
import Telemetry.Series

/-!
# Calls

The steps by which a relation is built, one constructor for each, and what they are given: lengths
of time, what stands in a time bucket without points, and the window of time that a statement is
held to.

A length of time is a named unit, one of any other unit, a literal taken as it is, or a number of
seconds; a month counts thirty days. A window is written as a condition of its own, in whole
seconds.
-/

namespace Telemetry

inductive Fill where
  | none
  | null
  | integer (n : Int)
  | float (x : Double)
deriving DecidableEq, Repr

namespace Fill

def text : Fill → String
  | none => "none"
  | null => "null"
  | integer n => toString n
  | float x => Layout.argument.double x

end Fill

inductive TimeUnit where
  | hour
  | minute
  | second
  | millisecond
  | day
  | week
  | month
deriving DecidableEq, Repr

namespace TimeUnit

def literal : TimeUnit → String
  | hour => "1h"
  | minute => "1m"
  | second => "1s"
  | millisecond => "1u"
  | day => "1d"
  | week => "1w"
  | month => "30d"

def ofName? : String → Option TimeUnit
  | "hour" => some hour
  | "minute" => some minute
  | "second" => some second
  | "ms" | "millisecond" => some millisecond
  | "day" => some day
  | "week" => some week
  | "month" => some month
  | _ => none

end TimeUnit

inductive Interval where
  | unit (unit : TimeUnit)
  | suffix (text : String)
  | literal (text : String)
  | seconds (n : Nat)
deriving DecidableEq, Repr

namespace Interval

/-- A unit by its name; any other name is the suffix of a unit. -/
def symbol (name : String) : Interval :=
  match TimeUnit.ofName? name with
  | some u => .unit u
  | none => .suffix name

/-- Whole seconds toward zero; a negative length counts as none. -/
def ofMilliseconds (n : Int) : Interval :=
  .seconds (n.tdiv 1000).toNat

def text : Interval → String
  | .unit u => u.literal
  | .suffix s => "1" ++ s
  | .literal s => s
  | .seconds n => toString n ++ "s"

end Interval

inductive Window where
  | past (interval : Interval)
  | since (instant : Instant)
deriving DecidableEq

def Window.clause : Window → Clause
  | past interval => .single (.raw ("time > now() - " ++ interval.text))
  | since instant => .single (.raw ("time > " ++ toString instant.seconds ++ "s"))

inductive Call where
  | select (fields : List String)
  | filters (negated : Bool) (pairs : List (String × Criterion))
  | raw (text : String)
  | group (terms : List String)
  | time (interval : Interval)
  | timeWithFill (interval : Interval) (fill : Fill)
  | fill (fill : Fill)
  | within (window : Window)
  | limit (n : Nat)
  | offset (n : Nat)
  | merge (series : Series)
  | calculate (calculation : Calculation)

def Call.filter (negated : Bool) (field : String) (criterion : Criterion) : Call :=
  .filters negated [(field, criterion)]

end Telemetry
