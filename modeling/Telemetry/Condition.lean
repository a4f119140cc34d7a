import Telemetry.Instant
import Telemetry.Number.Layout
import Telemetry.Pattern
import Telemetry.Text.Quoted

/-!
# Conditions

A condition is one term of a `where` clause. Bounds are strict on both sides, inside a range as
outside of it. The terms that one filter gives form a clause: they stand in parentheses and are
joined by a single word.

The operands of conditions are scalars. Strings are quoted, timestamps are whole seconds, floats
keep a point. Two scalars are equal when they are of one kind and equal in it: timestamps to the
nanosecond, floats as numbers.
-/

namespace Telemetry

inductive Kind where
  | integer
  | float
  | string
  | boolean
  | timestamp
deriving DecidableEq, Repr

def Kind.name : Kind → String
  | integer => "integer"
  | float => "float"
  | string => "string"
  | boolean => "boolean"
  | timestamp => "timestamp"

inductive Scalar where
  | integer (n : Int)
  | float (x : Double)
  | string (s : String)
  | boolean (b : Bool)
  | timestamp (t : Instant)
deriving DecidableEq

namespace Scalar

def kind : Scalar → Kind
  | integer _ => .integer
  | float _ => .float
  | string _ => .string
  | boolean _ => .boolean
  | timestamp _ => .timestamp

def text : Scalar → String
  | integer n => toString n
  | float x => Layout.operand.double x
  | string s => Text.quoteValue s
  | boolean b => if b then "true" else "false"
  | timestamp t => toString t.seconds ++ "s"

def equal : Scalar → Scalar → Bool
  | float x, float y => x.equal y
  | a, b => a = b

end Scalar

inductive Condition where
  | equals (field : String) (value : Scalar)
  | differs (field : String) (value : Scalar)
  | inside (field : String) (low high : Scalar)
  | outside (field : String) (low high : Scalar)
  | like (field : String) (pattern : Pattern)
  | unlike (field : String) (pattern : Pattern)
  | raw (text : String)
deriving DecidableEq

def Condition.text : Condition → String
  | equals field value => field ++ "=" ++ value.text
  | differs field value => field ++ "<>" ++ value.text
  | inside field low high => field ++ ">" ++ low.text ++ " and " ++ field ++ "<" ++ high.text
  | outside field low high => field ++ "<" ++ low.text ++ " and " ++ field ++ ">" ++ high.text
  | like field pattern => field ++ "=~" ++ pattern.literal
  | unlike field pattern => field ++ "!~" ++ pattern.literal
  | raw text => text

inductive Join where
  | all
  | any
deriving DecidableEq, Repr

def Join.separator : Join → String
  | all => " and "
  | any => " or "

structure Clause where
  terms : List Condition
  join : Join
deriving DecidableEq

namespace Clause

def single (term : Condition) : Clause := ⟨[term], .all⟩

def text (c : Clause) : String :=
  "(" ++ c.join.separator.intercalate (c.terms.map Condition.text) ++ ")"

end Clause

end Telemetry
