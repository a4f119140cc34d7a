import Telemetry.Number.Layout

/-!
# Calculations

A calculation applies a function of the store to fields and numbers. Names outside the known
functions are functions too; arguments are written without quotes.
-/

namespace Telemetry

inductive Function where
  | count
  | min
  | max
  | mean
  | mode
  | median
  | distinct
  | derivative
  | stddev
  | sum
  | first
  | last
  | difference
  | histogram
  | percentile
  | top
  | bottom
  | custom (name : String)
deriving DecidableEq, Repr

namespace Function

def known : List Function :=
  [count, min, max, mean, mode, median, distinct, derivative, stddev, sum, first, last, difference,
    histogram, percentile, top, bottom]

def name : Function → String
  | count => "count"
  | min => "min"
  | max => "max"
  | mean => "mean"
  | mode => "mode"
  | median => "median"
  | distinct => "distinct"
  | derivative => "derivative"
  | stddev => "stddev"
  | sum => "sum"
  | first => "first"
  | last => "last"
  | difference => "difference"
  | histogram => "histogram"
  | percentile => "percentile"
  | top => "top"
  | bottom => "bottom"
  | custom name => name

def ofName (name : String) : Function :=
  (known.find? fun f => f.name == name).getD (custom name)

def isCustom : Function → Bool
  | custom _ => true
  | _ => false

theorem name_ofName (name : String) : (ofName name).name = name := by
  unfold ofName
  cases h : known.find? fun f => f.name == name with
  | none => rfl
  | some f => simpa using List.find?_some h

theorem ofName_name {f : Function} (h : f.isCustom = false) : ofName f.name = f := by
  cases f with
  | custom _ => cases h
  | _ => rfl

end Function

inductive Argument where
  | field (name : String)
  | integer (n : Int)
  | float (x : Double)
deriving DecidableEq, Repr

def Argument.text : Argument → String
  | field name => name
  | integer n => toString n
  | float x => Layout.argument.double x

structure Calculation where
  function : Function
  args : List Argument
deriving DecidableEq, Repr

def Calculation.text (c : Calculation) : String :=
  c.function.name ++ "(" ++ ",".intercalate (c.args.map Argument.text) ++ ")"

end Telemetry
