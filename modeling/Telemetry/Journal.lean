import Telemetry.Number.Read
import Telemetry.Pattern
import Telemetry.Settings
import Telemetry.Text.Classes

/-!
# The journal

What the library notes about its work: how grave it is, which part of the library speaks, what
happened and with what particulars. A journal is started once, with a filter and a format, and takes
the entries that pass. The filter of the environment comes before that of the settings if it can be
read. An entry is written as a document, or as a line of its level, target, message and particulars.

A filter is a list of directives set apart by commas: thresholds for every part of the library, or
for the parts whose names begin with a target, or for entries with certain fields. Of the directives
that fit an entry the one with the longest target decides, of equal targets the one with most
fields, of equal directives the last; an entry that none fits does not pass.

A directive reads `target[span{field=value}]=level`, and every part of it may be left out. A target
alone lets everything pass. A directive that names a span, or a value of a field, asks for what this
library never does while it writes: no entry passes by it.
-/

namespace Telemetry

namespace Journal

inductive Level where
  | trace
  | debug
  | info
  | warn
  | error
deriving DecidableEq, Repr

namespace Level

def all : List Level := [trace, debug, info, warn, error]

def name : Level → String
  | trace => "TRACE"
  | debug => "DEBUG"
  | info => "INFO"
  | warn => "WARN"
  | error => "ERROR"

/-- The graver the higher, from one. -/
def rank : Level → Nat
  | trace => 1
  | debug => 2
  | info => 3
  | warn => 4
  | error => 5

end Level

structure Entry where
  level : Level
  target : String
  message : String
  particulars : List (String × Json)

/-- The least grave level that passes; none: nothing passes. -/
abbrev Threshold := Option Level

/-- A field that an entry must have, and whether a value is asked of it. -/
structure FieldMatch where
  name : String
  valued : Bool
deriving DecidableEq, Repr

structure Directive where
  target : Option String
  span : Option String
  fields : List FieldMatch
  threshold : Threshold
deriving DecidableEq, Repr

/-- The threshold of a number from zero, where nothing passes, to five, where all does. -/
def Threshold.ofNumber? : Nat → Option Threshold
  | 0 => some none
  | n => (Level.all.find? fun level => level.rank + n = 6).map some

def Threshold.ofName? (name : String) : Option Threshold :=
  let lower := String.ofList (name.toList.map Char.toLower)
  if lower = "off" then some none
  else (Level.all.find? fun level =>
    String.ofList (level.name.toList.map Char.toLower) = lower).map some

/-- A number, signed by a plus or by nothing, or a name in any case. -/
def Threshold.ofText? (text : String) : Option Threshold :=
  let digits := match text.toList with
    | '+' :: rest => rest
    | chars => chars
  ((natural? digits).bind ofNumber?).orElse fun _ => ofName? text

/-- A value of a field is a number or a pattern that can be laid out as a table. -/
def isFieldValue (text : String) : Bool :=
  (Double.read? .double text).isSome || Pattern.isTabular text

/-- A field alone or with a value; what follows a second sign is left out. -/
def FieldMatch.ofText? (text : String) : Option FieldMatch :=
  if text = "" then none
  else match text.splitOn "=" with
    | name :: value :: _ => if isFieldValue value then some ⟨name, true⟩ else none
    | _ => some ⟨text, false⟩

/-- The characters from one place on up to another, counted in bytes from `place` on. Places inside
a character cut nothing. -/
def cut? (start stop place : Nat) : List Char → Option (List Char)
  | [] => if place = stop then some [] else none
  | c :: rest =>
    if place = stop then some []
    else if place < start then
      if start < place + c.utf8Size then none else cut? start stop (place + c.utf8Size) rest
    else (cut? start stop (place + c.utf8Size) rest).map (c :: ·)

def slice? (text : String) (start stop : Nat) : Option String :=
  (cut? start stop 0 text.toList).map String.ofList

/-- The part of a directive at hand, with the place where it starts. -/
inductive Stage where
  | start
  | word (since : Nat)
  | span (since : Nat)
  | field (since : Nat)
  | fields
  | target
  | level (since : Nat)
deriving DecidableEq, Repr

def opensDirective (c : Char) : Bool :=
  c = '-' || c = ':' || c = '_' || Text.isAlphanumeric c

/-- Takes the character at a place. The parts are cut from the whole text; places are counted from
its first character that is not blank. -/
def Directive.step? (text : String) (d : Directive) (stage : Stage) (place : Nat) (c : Char) :
    Option (Directive × Stage) :=
  match stage with
  | .start =>
    if c = '[' then some (d, .span (place + 1))
    else if opensDirective c then some (d, .word place)
    else none
  | .word since =>
    if c = '=' then do return ({ d with target := ← slice? text since place }, .level (place + 1))
    else if c = '[' then do
      return ({ d with target := ← slice? text since place }, .span (place + 1))
    else some (d, stage)
  | .span since =>
    if c = ']' then do return ({ d with span := ← slice? text since place }, .target)
    else if c = '\x7b' then do
      let name ← slice? text since place
      return ({ d with span := if name = "" then none else some name }, .field (place + 1))
    else some (d, stage)
  | .field since =>
    if c = '\x7d' then do
      let field ← FieldMatch.ofText? (← slice? text since place)
      return ({ d with fields := d.fields ++ [field] }, .fields)
    else some (d, stage)
  | .fields => if c = ']' then some (d, .target) else none
  | .target => if c = '=' then some (d, .level (place + 1)) else none
  | .level _ => some (d, stage)

def Directive.steps? (text : String) (d : Directive) (stage : Stage) (place : Nat) :
    List Char → Option (Directive × Stage)
  | [] => some (d, stage)
  | c :: rest => do
    let (d, stage) ← d.step? text stage place c
    d.steps? text stage (place + c.utf8Size) rest

/-- Reads one directive. -/
def Directive.ofText? (text : String) : Option Directive := do
  let (d, stage) ← steps? text ⟨none, none, [], some .trace⟩ .start 0 (Text.trim text).toList
  let rest (since : Nat) : Option String := slice? text since text.utf8ByteSize
  match stage with
  | .word since =>
    let word ← rest since
    match Threshold.ofText? word with
    | some threshold => some { d with threshold }
    | none => some { d with target := some word }
  | .level since =>
    let level ← rest since
    if level = "" then some d
    else (Threshold.ofText? level).map fun threshold => { d with threshold }
  | .target => some d
  | _ => none

/-- The directive asks for a span or for the value of a field. -/
def Directive.isDynamic (d : Directive) : Bool := d.span.isSome || d.fields.any (·.valued)

abbrev Filter := List Directive

/-- The filter of no directives at all: errors pass. -/
def Filter.standard : Filter := [⟨none, none, [], some .error⟩]

def Filter.ofText? (text : String) : Option Filter := do
  let parts := (text.splitOn ",").filter (· ≠ "")
  let directives ← parts.mapM Directive.ofText?
  return if directives.isEmpty then standard else directives

/-- The target is the start of the entry's, and the entry has the fields. -/
def Directive.fits (d : Directive) (entry : Entry) : Bool :=
  !d.isDynamic && d.target.all (fun start => start.toList.isPrefixOf entry.target.toList) &&
    d.fields.all fun field => ("message" :: entry.particulars.map (·.1)).contains field.name

/-- The length of the target, then the number of fields. -/
def Directive.weight (d : Directive) : Nat × Nat :=
  (match d.target with
    | none => 0
    | some start => start.length + 1,
   d.fields.length)

/-- The first of two directives decides before the second. Of equal weights the names of the fields
decide, and the later of those that are equal in all of this. -/
def Directive.precedes (d : Directive) (other : Directive) : Bool :=
  let names (d : Directive) : List String := d.fields.map (·.name)
  if d.weight = other.weight then !(names d < names other)
  else other.weight.1 < d.weight.1 ||
    other.weight.1 = d.weight.1 && other.weight.2 < d.weight.2

/-- The directive that decides about an entry. -/
def Filter.deciding (filter : Filter) (entry : Entry) : Option Directive :=
  (filter.filter (·.fits entry)).foldl
    (fun best d => if best.all d.precedes then some d else best) none

def Filter.passes (filter : Filter) (entry : Entry) : Bool :=
  match (filter.deciding entry).map (·.threshold) with
  | some (some least) => least.rank ≤ entry.level.rank
  | _ => false

end Journal

structure Journal where
  filter : Journal.Filter
  structured : Bool
  file : Option String

namespace Journal

inductive StartError where
  | unreadableFilter
  | unopenedFile
  | alreadyStarted
deriving DecidableEq, Repr

/-- Starts a journal; `opens` tells which files can be opened. -/
def start (running : Option Journal) (settings : JournalSettings) (environment : Option String)
    (opens : String → Bool) : Except StartError Journal :=
  match (environment.bind Filter.ofText?).or (Filter.ofText? settings.level) with
  | none => .error .unreadableFilter
  | some filter =>
    if !settings.file.all opens then .error .unopenedFile
    else if running.isSome then .error .alreadyStarted
    else .ok ⟨filter, settings.format = "json", settings.file⟩

def kept (journal : Journal) (entries : List Entry) : List Entry :=
  entries.filter journal.filter.passes

/-- An entry as a document. -/
def Entry.json (entry : Entry) : Json :=
  .obj [("level", .str entry.level.name), ("target", .str entry.target),
    ("fields", .obj (("message", .str entry.message) :: entry.particulars))]

def particularText : Json → String
  | .str text => text
  | value => value.text

/-- An entry as a line. -/
def Entry.line (entry : Entry) : String :=
  let particulars := entry.particulars.map fun (name, value) => name ++ "=" ++ particularText value
  " ".intercalate ([entry.level.name, entry.target ++ ":", entry.message] ++ particulars)

end Journal

end Telemetry
