import Telemetry.Pattern.Automaton
import Telemetry.Pattern.Meaning
import Telemetry.Pattern.Read
import Telemetry.Text.Quoted

/-!
# Patterns

A pattern is known by its source. It is matched by the store, so all that is asked of it here is
that its source is one: it can be read, does not nest too deep, means something, and is run by
automata of bounded size. In a statement it stands between slashes.
-/

namespace Telemetry

structure Pattern where
  source : String
deriving DecidableEq, Repr

namespace Pattern

/-- How deep a pattern may nest. -/
def maxDepth : Nat := 250

/-- What a source matches, if it can be read, nests no deeper than it may and means something. -/
def shape? (source : String) : Option Shape :=
  match read? source with
  | none => none
  | some tree => if tree.depth ≤ maxDepth then tree.meaning? else none

/-- The source is a regular expression that can be run. -/
def wellFormed (source : String) : Bool := (shape? source).any (·.fits)

/-- The source is a regular expression that can be laid out as a table of its states. A boundary of
Unicode words cannot: it is not decided by the bytes on its two sides. -/
def isTabular (source : String) : Bool := (shape? source).any fun shape => !shape.asksWord

def ofSource? (source : String) : Option Pattern :=
  if wellFormed source then some ⟨source⟩ else none

def literal (p : Pattern) : String := Text.quotePattern p.source

end Pattern

end Telemetry
