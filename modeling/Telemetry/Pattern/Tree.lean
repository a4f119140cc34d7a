import Telemetry.Text.Ranges

/-!
# Patterns as trees

What the source of a regular expression says, before flags are taken into account and names are
looked up: characters, classes, assertions, repetitions, groups, sequences and alternatives. Classes
have a tree of their own, with unions and set operations. A tree has a depth; patterns that nest too
deep are refused.
-/

namespace Telemetry.Pattern

/-- A character as written; `byte` tells of an escape of two hexadecimal digits, which stands for a
byte where characters are not read as Unicode. -/
structure Letter where
  char : Char
  byte : Bool
deriving DecidableEq, Repr

inductive Shorthand where
  | digit
  | space
  | word
deriving DecidableEq, Repr

/-- What is asked of Unicode: a property by one letter or by its name, or a property that has a
value. -/
inductive Query where
  | letter (c : Char)
  | name (name : String)
  | value (property value : String)
deriving DecidableEq, Repr

/-- Sets that have a name: `\d`, `[:alpha:]`, `\pL`. -/
inductive Named where
  | shorthand (kind : Shorthand)
  | ascii (set : Text.Ranges)
  | property (query : Query)
deriving DecidableEq, Repr

inductive SetOperation where
  | intersection
  | difference
  | symmetricDifference
deriving DecidableEq, Repr

/-- What stands between the brackets of a class. -/
inductive ClassTree where
  | empty
  | letter (letter : Letter)
  | range (low high : Letter)
  | named (name : Named) (negated : Bool)
  | bracketed (inner : ClassTree) (negated : Bool)
  | union (items : List ClassTree)
  | operation (op : SetOperation) (left right : ClassTree)

inductive Flag where
  | caseless
  | lines
  | dotAll
  | swapGreed
  | unicode
  | carriage
  | verbose
deriving DecidableEq, Repr

/-- Where an assertion holds: at a boundary of the text, of a line or of a word. -/
inductive Assertion where
  | lineStart
  | lineEnd
  | textStart
  | textEnd
  | word
  | notWord
  | wordStart
  | wordEnd
  | wordStartHalf
  | wordEndHalf
deriving DecidableEq, Repr

/-- Groups that capture are numbered from one in the order in which they open. -/
inductive GroupKind where
  | capture (index : Nat)
  | plain (flags : List (Flag × Bool))
deriving DecidableEq, Repr

inductive Tree where
  | empty
  | letter (letter : Letter)
  | dot
  | assertion (kind : Assertion)
  | flags (flags : List (Flag × Bool))
  | named (name : Named) (negated : Bool)
  | bracketed (inner : ClassTree) (negated : Bool)
  | repetition (inner : Tree) (low : Nat) (high : Option Nat) (greedy : Bool)
  | group (kind : GroupKind) (inner : Tree)
  | sequence (items : List Tree)
  | alternatives (items : List Tree)

/-- A union of the items; one item stands for itself. -/
def ClassTree.ofItems : List ClassTree → ClassTree
  | [] => .empty
  | [item] => item
  | items => .union items

def Tree.ofItems : List Tree → Tree
  | [] => .empty
  | [item] => item
  | items => .sequence items

def Tree.ofBranches : List Tree → Tree
  | [branch] => branch
  | branches => .alternatives branches

mutual

/-- Brackets, unions and operations count one each. -/
def ClassTree.depth : ClassTree → Nat
  | .bracketed inner _ => inner.depth + 1
  | .union items => depths items + 1
  | .operation _ left right => max left.depth right.depth + 1
  | _ => 0

def ClassTree.depths : List ClassTree → Nat
  | [] => 0
  | item :: items => max item.depth (depths items)

end

mutual

/-- Classes in brackets, repetitions, groups, sequences and alternatives count one each. -/
def Tree.depth : Tree → Nat
  | .bracketed inner _ => inner.depth + 1
  | .repetition inner .. => inner.depth + 1
  | .group _ inner => inner.depth + 1
  | .sequence items => depths items + 1
  | .alternatives items => depths items + 1
  | _ => 0

def Tree.depths : List Tree → Nat
  | [] => 0
  | item :: items => max item.depth (depths items)

end

end Telemetry.Pattern
