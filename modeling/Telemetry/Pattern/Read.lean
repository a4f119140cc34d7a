import Telemetry.Pattern.Tree
import Telemetry.Text.Classes

/-!
# Reading patterns

The syntax of regular expressions without look-around and back-references: groups with names and
flags, bracketed classes with set operations, counted repetitions, escapes. The reader walks the
source once and keeps the groups that are open with what stands in them so far.
-/

namespace Telemetry.Pattern

/-- Skips white space and comments where flag `x` is on. -/
def skip (verbose : Bool) (text : List Char) : List Char :=
  if verbose then go false text else text
where
  go (comment : Bool) : List Char → List Char
    | [] => []
    | c :: rest =>
      if comment then go (c ≠ '\n') rest
      else if Text.isBlank c then go false rest
      else if c = '#' then go true rest
      else c :: rest

def isMeta (c : Char) : Bool :=
  "\\.+*?()|[]\x7b\x7d^$#&-~".toList.contains c

/-- Punctuation may be escaped without need; letters and digits are kept for escapes of their
own. -/
def isEscapable (c : Char) : Bool :=
  isMeta c || (c.toNat < 0x80 && !c.isAlphanum && c ≠ '<' && c ≠ '>')

def isHex (c : Char) : Bool :=
  c.isDigit || ('a' ≤ c && c ≤ 'f') || ('A' ≤ c && c ≤ 'F')

def hexDigitValue (c : Char) : Nat :=
  if c.isDigit then c.toNat - '0'.toNat else c.toLower.toNat - 'a'.toNat + 10

/-- The character of a code point written in hexadecimal digits. -/
def codePoint? (digits : List Char) : Option Char :=
  let n := digits.foldl (fun n c => 16 * n + hexDigitValue c) 0
  if digits ≠ [] ∧ n.isValidChar then some (Char.ofNat n) else none

/-- What an escape stands for; only a letter can bound a range. -/
inductive Item where
  | letter (letter : Letter)
  | named (name : Named) (negated : Bool)
  | assertion (kind : Assertion)

/-- The text up to a closing brace, blanks skipped, and what follows the brace. -/
def upToBrace? (verbose : Bool) : Nat → List Char → Option (List Char × List Char)
  | 0, _ => none
  | fuel + 1, text =>
    match skip verbose text with
    | [] => none
    | '\x7d' :: rest => some ([], rest)
    | c :: rest => (upToBrace? verbose fuel rest).map fun (cs, rest) => (c :: cs, rest)

/-- A fixed number of hexadecimal digits. -/
def hexDigits? (verbose : Bool) : Nat → List Char → Option (List Char × List Char)
  | 0, text => some ([], text)
  | n + 1, text =>
    match skip verbose text with
    | c :: rest =>
      if isHex c then (hexDigits? verbose n rest).map fun (cs, rest) => (c :: cs, rest) else none
    | [] => none

def hexEscape? (verbose : Bool) (width : Nat) (text : List Char) : Option (Item × List Char) := do
  let (digits, rest, fixed) ← match skip verbose text with
    | '\x7b' :: rest => do
      let (digits, rest) ← upToBrace? verbose (rest.length + 1) rest
      if digits.all isHex then some (digits, rest, false) else none
    | text => (hexDigits? verbose width text).map fun (digits, rest) => (digits, rest, true)
  let c ← codePoint? digits
  return (.letter ⟨c, fixed && width = 2⟩, skip verbose rest)

/-- Cuts a text at the first place where a mark stands. -/
def cutAt? (mark : List Char) : List Char → Option (List Char × List Char)
  | [] => none
  | c :: rest =>
    if mark.isPrefixOf (c :: rest) then some ([], (c :: rest).drop mark.length)
    else (cutAt? mark rest).map fun (before, after) => (c :: before, after)

/-- A property in braces: a name, or a property and its value. `!=` negates. -/
def queryOf (text : List Char) (negated : Bool) : Item :=
  let value (parts : List Char × List Char) : Query :=
    .value (String.ofList parts.1) (String.ofList parts.2)
  match cutAt? ['!', '='] text with
  | some parts => .named (.property (value parts)) !negated
  | none =>
    match (cutAt? [':'] text).or (cutAt? ['='] text) with
    | some parts => .named (.property (value parts)) negated
    | none => .named (.property (.name (String.ofList text))) negated

/-- A property after its letter: one character or a text in braces. -/
def property? (verbose negated : Bool) (text : List Char) : Option (Item × List Char) :=
  match skip verbose text with
  | '\x7b' :: rest =>
    (upToBrace? verbose (rest.length + 1) rest).map fun (text, rest) => (queryOf text negated, rest)
  | c :: rest =>
    if c = '\\' then none else some (.named (.property (.letter c)) negated, skip verbose rest)
  | [] => none

/-- The word boundaries with a name, as in `\b{start}`; other braces are left to repetitions. -/
def wordBoundary? (verbose : Bool) (text : List Char) : Option (Item × List Char) :=
  let isName (c : Char) := c.isAlpha || c = '-'
  match text with
  | '\x7b' :: rest =>
    match skip verbose rest with
    | [] => none
    | c :: _ =>
      if isName c then do
        let (name, rest) ← upToBrace? verbose (rest.length + 1) rest
        let kind ← match String.ofList name with
          | "start" => some Assertion.wordStart
          | "end" => some .wordEnd
          | "start-half" => some .wordStartHalf
          | "end-half" => some .wordEndHalf
          | _ => none
        some (.assertion kind, rest)
      else some (.assertion .word, text)
  | _ => some (.assertion .word, text)

/-- Reads an escape after its backslash. -/
def escape? (verbose : Bool) : List Char → Option (Item × List Char)
  | [] => none
  | c :: rest =>
    let letter (c : Char) : Option (Item × List Char) := some (.letter ⟨c, false⟩, rest)
    let shorthand (kind : Shorthand) : Option (Item × List Char) :=
      some (.named (.shorthand kind) c.isUpper, rest)
    let assertion (kind : Assertion) : Option (Item × List Char) := some (.assertion kind, rest)
    if isEscapable c then letter c
    else match c with
      | 'x' => hexEscape? verbose 2 rest
      | 'u' => hexEscape? verbose 4 rest
      | 'U' => hexEscape? verbose 8 rest
      | 'p' => property? verbose false rest
      | 'P' => property? verbose true rest
      | 'd' | 'D' => shorthand .digit
      | 's' | 'S' => shorthand .space
      | 'w' | 'W' => shorthand .word
      | 'a' => letter '\x07'
      | 'f' => letter '\x0c'
      | 't' => letter '\t'
      | 'n' => letter '\n'
      | 'r' => letter '\r'
      | 'v' => letter '\x0b'
      | 'b' => wordBoundary? verbose rest
      | 'A' => assertion .textStart
      | 'z' => assertion .textEnd
      | 'B' => assertion .notWord
      | '<' => assertion .wordStart
      | '>' => assertion .wordEnd
      | _ => none

def asciiSet? (name : String) : Option Text.Ranges :=
  match name with
  | "alnum" => some [(0x30, 0x39), (0x41, 0x5A), (0x61, 0x7A)]
  | "alpha" => some [(0x41, 0x5A), (0x61, 0x7A)]
  | "ascii" => some [(0x00, 0x7F)]
  | "blank" => some [(0x09, 0x09), (0x20, 0x20)]
  | "cntrl" => some [(0x00, 0x1F), (0x7F, 0x7F)]
  | "digit" => some [(0x30, 0x39)]
  | "graph" => some [(0x21, 0x7E)]
  | "lower" => some [(0x61, 0x7A)]
  | "print" => some [(0x20, 0x7E)]
  | "punct" => some [(0x21, 0x2F), (0x3A, 0x40), (0x5B, 0x60), (0x7B, 0x7E)]
  | "space" => some [(0x09, 0x0D), (0x20, 0x20)]
  | "upper" => some [(0x41, 0x5A)]
  | "word" => some [(0x30, 0x39), (0x41, 0x5A), (0x5F, 0x5F), (0x61, 0x7A)]
  | "xdigit" => some [(0x30, 0x39), (0x41, 0x46), (0x61, 0x66)]
  | _ => none

/-- A named class such as `[:alpha:]`, after its bracket. -/
def asciiClass? (text : List Char) : Option (ClassTree × List Char) := do
  let (negated, text) ← match text with
    | ':' :: '^' :: rest => some (true, rest)
    | ':' :: rest => some (false, rest)
    | _ => none
  match text.dropWhile (· ≠ ':') with
  | ':' :: ']' :: rest =>
    let set ← asciiSet? (String.ofList (text.takeWhile (· ≠ ':')))
    some (.named (.ascii set) negated, rest)
  | _ => none

/-- A class that is open: what stands in it since the last operation, the latest first, and the left
side of that operation. -/
structure OpenClass where
  negated : Bool
  items : List ClassTree
  left : Option (SetOperation × ClassTree)

def OpenClass.push (c : OpenClass) (item : ClassTree) : OpenClass :=
  { c with items := item :: c.items }

/-- All that stands in the class. -/
def OpenClass.inner (c : OpenClass) : ClassTree :=
  let right := ClassTree.ofItems c.items.reverse
  match c.left with
  | none => right
  | some (op, left) => .operation op left right

/-- An operation takes all that stands before it as its left side. -/
def OpenClass.operate (c : OpenClass) (op : SetOperation) : OpenClass :=
  { c with items := [], left := some (op, c.inner) }

/-- Reads what may follow an opening bracket: a caret, hyphens, a bracket that closes nothing. -/
def openClass? (verbose : Bool) (text : List Char) : Option (OpenClass × List Char) :=
  let (negated, text) := match skip verbose text with
    | '^' :: rest => (true, skip verbose rest)
    | text => (false, text)
  let (hyphens, body) := takeHyphens text.length text
  let c : OpenClass := ⟨negated, List.replicate hyphens (.letter ⟨'-', false⟩), none⟩
  match body with
  | [] => none
  | ']' :: rest =>
    if hyphens = 0 then
      match skip verbose rest with
      | [] => none
      | rest => some (c.push (.letter ⟨']', false⟩), rest)
    else some (c, body)
  | body => some (c, body)
where
  takeHyphens : Nat → List Char → Nat × List Char
    | fuel + 1, '-' :: rest =>
      let (n, rest) := takeHyphens fuel (skip verbose rest)
      (n + 1, rest)
    | _, text => (0, text)

def classItem? (verbose : Bool) : List Char → Option (Item × List Char)
  | [] => none
  | '\\' :: rest => escape? verbose rest
  | c :: rest => some (.letter ⟨c, false⟩, rest)

/-- A single item or a range of a class; a hyphen before a bracket or another hyphen makes no
range. -/
def classRange? (verbose : Bool) (text : List Char) : Option (ClassTree × List Char) := do
  let (low, rest) ← classItem? verbose text
  let single : Option (ClassTree × List Char) := match low with
    | .letter letter => some (.letter letter, skip verbose rest)
    | .named name negated => some (.named name negated, skip verbose rest)
    | .assertion _ => none
  match skip verbose rest with
  | [] => none
  | '-' :: rest =>
    match skip verbose rest with
    | [] => none
    | ']' :: _ | '-' :: _ => single
    | rest =>
      let (high, rest) ← classItem? verbose rest
      match low, high with
      | .letter a, .letter b => if a.char ≤ b.char then some (.range a b, rest) else none
      | _, _ => none
  | _ => single

/-- Reads a class to the bracket that closes it, after the one that opens it; `outer` are the
classes around the one at hand. -/
def class? (verbose : Bool) (outer : List OpenClass) (c : OpenClass) :
    Nat → List Char → Option (Tree × List Char)
  | 0, _ => none
  | fuel + 1, text =>
    match skip verbose text with
    | [] => none
    | '[' :: rest =>
      match asciiClass? rest with
      | some (item, rest) => class? verbose outer (c.push item) fuel rest
      | none => do
        let (inner, rest) ← openClass? verbose rest
        class? verbose (c :: outer) inner fuel rest
    | ']' :: rest =>
      match outer with
      | [] => some (.bracketed c.inner c.negated, rest)
      | around :: outer =>
        class? verbose outer (around.push (.bracketed c.inner c.negated)) fuel rest
    | '&' :: '&' :: rest => class? verbose outer (c.operate .intersection) fuel rest
    | '-' :: '-' :: rest => class? verbose outer (c.operate .difference) fuel rest
    | '~' :: '~' :: rest => class? verbose outer (c.operate .symmetricDifference) fuel rest
    | text => do
      let (item, rest) ← classRange? verbose text
      class? verbose outer (c.push item) fuel rest

/-- A decimal number that fits a word of thirty-two bits, blanks around it. -/
def count? (verbose : Bool) (text : List Char) : Option (Nat × List Char) :=
  go (text.length + 1) none (text.dropWhile Text.isBlank)
where
  go : Nat → Option Nat → List Char → Option (Nat × List Char)
    | fuel + 1, n, c :: rest =>
      if c.isDigit then
        go fuel (some (10 * n.getD 0 + (c.toNat - '0'.toNat))) (skip verbose rest)
      else finish n (c :: rest)
    | _, n, text => finish n text
  finish (n : Option Nat) (text : List Char) : Option (Nat × List Char) := do
    let n ← n
    if n < Nat.pow 2 32 then some (n, skip verbose (text.dropWhile Text.isBlank)) else none

/-- A mark after which the repetition takes as little as it can. -/
def lazyMark (text : List Char) : Bool × List Char :=
  match text with
  | '?' :: rest => (true, rest)
  | text => (false, text)

/-- The bounds of a counted repetition, after its opening brace. -/
def bounds? (verbose : Bool) (text : List Char) : Option (Nat × Option Nat × List Char) := do
  let (low, rest) ← count? verbose (skip verbose text)
  match rest with
  | ',' :: rest =>
    match skip verbose rest with
    | '\x7d' :: rest => some (low, none, rest)
    | rest => do
      let (high, rest) ← count? verbose rest
      match rest with
      | '\x7d' :: rest => if low ≤ high then some (low, some high, rest) else none
      | _ => none
  | '\x7d' :: rest => some (low, some low, rest)
  | _ => none

def isNameStart (c : Char) : Bool := c = '_' || Text.isAlphabetic c

def isNamePart (c : Char) : Bool :=
  c = '_' || c = '.' || c = '[' || c = ']' || Text.isAlphanumeric c

/-- The name of a group and what follows its angle bracket. -/
def groupName? (text : List Char) : Option (String × List Char) :=
  match text.takeWhile (· ≠ '>'), text.dropWhile (· ≠ '>') with
  | c :: cs, _ :: rest =>
    if isNameStart c && cs.all isNamePart then some (String.ofList (c :: cs), rest) else none
  | _, _ => none

def Flag.ofChar? : Char → Option Flag
  | 'i' => some .caseless
  | 'm' => some .lines
  | 's' => some .dotAll
  | 'U' => some .swapGreed
  | 'u' => some .unicode
  | 'R' => some .carriage
  | 'x' => some .verbose
  | _ => none

/-- Flags with what they are set to, whether they stand for themselves, and what follows them. -/
structure FlagList where
  flags : List (Flag × Bool)
  bare : Bool
  rest : List Char

/-- Reads flags to the colon of a group or to the parenthesis after them. A flag stands once, and
so does the hyphen that turns off the flags after it. -/
def flags? (flags : List (Flag × Bool)) (off dangling : Bool) : List Char → Option FlagList
  | [] => none
  | c :: rest =>
    if c = ':' || c = ')' then
      if dangling || (c = ')' && flags.isEmpty) then none
      else some ⟨flags, c = ')', rest⟩
    else if c = '-' then if off then none else flags? flags true true rest
    else match Flag.ofChar? c with
      | none => none
      | some flag =>
        if flags.any (·.1 = flag) then none else flags? (flags ++ [(flag, !off)]) off false rest

/-- A group that is open: the branches before the one at hand and the items in that one, the latest
first. -/
structure OpenGroup where
  kind : GroupKind
  branches : List Tree
  items : List Tree
  verbose : Bool

def OpenGroup.push (g : OpenGroup) (item : Tree) : OpenGroup :=
  { g with items := item :: g.items }

def OpenGroup.branch (g : OpenGroup) : OpenGroup :=
  { g with branches := Tree.ofItems g.items.reverse :: g.branches, items := [] }

def OpenGroup.tree (g : OpenGroup) : Tree :=
  Tree.ofBranches (g.branch.branches.reverse)

/-- The rest of the source, the group at hand, those around it, and the names so far. -/
structure Reading where
  rest : List Char
  inner : OpenGroup
  outer : List OpenGroup
  captures : Nat
  names : List String

namespace Reading

def push (r : Reading) (item : Tree) (rest : List Char) : Reading :=
  { r with rest, inner := r.inner.push item }

def enter (r : Reading) (kind : GroupKind) (verbose : Bool) (rest : List Char) : Reading :=
  { r with rest, inner := ⟨kind, [], [], verbose⟩, outer := r.inner :: r.outer }

def capture (r : Reading) (rest : List Char) : Reading :=
  { r.enter (.capture (r.captures + 1)) r.inner.verbose rest with captures := r.captures + 1 }

def openGroup? (r : Reading) : Option Reading :=
  let named (text : List Char) : Option Reading := do
    let (name, rest) ← groupName? text
    if r.names.contains name then none else some { r.capture rest with names := name :: r.names }
  match skip r.inner.verbose r.rest with
  | '?' :: '=' :: _ | '?' :: '!' :: _ | '?' :: '<' :: '=' :: _ | '?' :: '<' :: '!' :: _ => none
  | '?' :: 'P' :: '<' :: rest => named rest
  | '?' :: '<' :: rest => named rest
  | '?' :: rest => do
    let list ← flags? [] false false rest
    let verbose := (list.flags.lookup .verbose).getD r.inner.verbose
    if list.bare then
      let inner := { r.inner.push (.flags list.flags) with verbose }
      some { r with rest := list.rest, inner }
    else some (r.enter (.plain list.flags) verbose list.rest)
  | rest => some (r.capture rest)

/-- Repeats what stands before, which is neither nothing nor a list of flags. -/
def repeat? (r : Reading) (low : Nat) (high : Option Nat) (rest : List Char) : Option Reading :=
  match r.inner.items with
  | [] | .flags _ :: _ => none
  | item :: items =>
    let (isLazy, rest) := lazyMark rest
    let repeated := Tree.repetition item low high (!isLazy)
    some { r with rest, inner := { r.inner with items := repeated :: items } }

/-- Takes one construct off the source. -/
def step? (r : Reading) (c : Char) (rest : List Char) : Option Reading :=
  match c with
  | '(' => openGroup? { r with rest }
  | ')' =>
    match r.outer with
    | [] => none
    | around :: outer =>
      some { r with rest, outer, inner := around.push (.group r.inner.kind r.inner.tree) }
  | '|' => some { r with rest, inner := r.inner.branch }
  | '[' => do
    let (c, body) ← openClass? r.inner.verbose rest
    let (tree, rest) ← class? r.inner.verbose [] c (rest.length + 1) body
    some (r.push tree rest)
  | '?' => r.repeat? 0 (some 1) rest
  | '*' => r.repeat? 0 none rest
  | '+' => r.repeat? 1 none rest
  | '\x7b' => do
    let (low, high, rest) ← bounds? r.inner.verbose rest
    r.repeat? low high (skip r.inner.verbose rest)
  | '\\' => do
    let (item, rest) ← escape? r.inner.verbose rest
    some <| match item with
      | .letter letter => r.push (.letter letter) rest
      | .named name negated => r.push (.named name negated) rest
      | .assertion kind => r.push (.assertion kind) rest
  | '.' => some (r.push .dot rest)
  | '^' => some (r.push (.assertion .lineStart) rest)
  | '$' => some (r.push (.assertion .lineEnd) rest)
  | c => some (r.push (.letter ⟨c, false⟩) rest)

def run? : Nat → Reading → Option Reading
  | 0, _ => none
  | fuel + 1, r =>
    match skip r.inner.verbose r.rest with
    | [] => some r
    | c :: rest => do run? fuel (← r.step? c rest)

end Reading

/-- Reads a source to its end, where no group is open. -/
def read? (source : String) : Option Tree := do
  let chars := source.toList
  let r ← Reading.run? (chars.length + 1) ⟨chars, ⟨.plain [], [], [], false⟩, [], 0, []⟩
  if r.outer.isEmpty then some r.inner.tree else none

end Telemetry.Pattern
