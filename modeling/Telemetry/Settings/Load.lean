import Telemetry.Settings
import Telemetry.Toml.Read

/-!
# Loading settings

Settings are read from a file and overridden by the environment. What a file leaves out is standard
and what it says besides is passed over, but a setting of the wrong kind makes the file unusable. A
section may also be a list of its settings in order. Overrides that cannot be read as numbers do not
count.

Without a file of one's own the places are searched in order: the first file that is there and can
be used is taken, and if none is, the standard settings.
-/

namespace Telemetry

inductive LoadError where
  /-- The file is missing or no text. -/
  | unreadable
  /-- The text is no document of settings. -/
  | malformed
deriving DecidableEq, Repr

namespace Toml

/-- A section: its settings by name, or in order. A date names nothing. -/
inductive Section where
  | named (entries : Entries)
  | listed (items : List Toml)

def section? : Toml → Option Section
  | .table _ entries => some (.named entries)
  | .moment _ => some (.named [])
  | .array items => some (.listed items)
  | .tables members => some (.listed (members.map (.table .headed)))
  | _ => none

def Section.get? (s : Section) (place : Nat) (name : String) : Option Toml :=
  match s with
  | .named entries => entries.lookup name
  | .listed items => items[place]?

/-- A setting, or the standard one where it is left out. -/
def Section.read {α : Type} (s : Section) (place : Nat) (name : String) (standard : α)
    (read? : Toml → Option α) : Option α :=
  match s.get? place name with
  | none => some standard
  | some value => read? value

def text? : Toml → Option String
  | .string text => some text
  | _ => none

def natural? : Toml → Option Nat
  | .integer n => if 0 ≤ n then some n.toNat else none
  | _ => none

def isEmpty : Toml → Bool
  | .table _ [] | .array [] | .tables [] => true
  | _ => false

/-- A precision: its suffix, or a table with the suffix as its one key and nothing under it. -/
def precision? : Toml → Option Precision
  | .string text => Precision.ofSuffix? text
  | .table _ [(text, value)] => if value.isEmpty then Precision.ofSuffix? text else none
  | _ => none

end Toml

def StoreSettings.ofToml? (t : Toml) : Option StoreSettings := do
  let s ← t.section?
  return {
    url := ← s.read 0 "url" standard.url Toml.text?
    database := ← s.read 1 "database" standard.database Toml.text?
    precision := ← s.read 2 "time_precision" standard.precision Toml.precision?
    timeoutMs := ← s.read 3 "request_timeout_ms" standard.timeoutMs Toml.natural? }

/-- In a list the file is not left out. -/
def JournalSettings.ofToml? (t : Toml) : Option JournalSettings := do
  let s ← t.section?
  let file ← match s, s.get? 2 "file" with
    | _, some value => value.text?.map some
    | .named _, none => some none
    | .listed _, none => none
  return {
    level := ← s.read 0 "level" standard.level Toml.text?
    format := ← s.read 1 "format" standard.format Toml.text?
    file }

namespace Settings

def ofToml? (t : Toml) : Option Settings := do
  let s ← t.section?
  return {
    store := ← s.read 0 "client" .standard StoreSettings.ofToml?
    journal := ← s.read 1 "logging" .standard JournalSettings.ofToml? }

/-- Reads a file by its bytes; none: there is no file. -/
def load (file : Option ByteArray) : Except LoadError Settings :=
  match file.bind String.fromUTF8? with
  | none => .error .unreadable
  | some text =>
    match (Toml.read? text).bind ofToml? with
    | none => .error .malformed
    | some settings => .ok settings

/-- A number of milliseconds of at most sixty-four bits: digits, after a plus or nothing. -/
def timeout? (text : String) : Option Nat :=
  let digits := match text.toList with
    | '+' :: rest => rest
    | chars => chars
  (Telemetry.natural? digits).filter (· < Nat.pow 2 64)

def override (environment : String → Option String) (s : Settings) : Settings where
  store := {
    url := (environment "SERIESQL_URL").getD s.store.url
    database := (environment "SERIESQL_DATABASE").getD s.store.database
    precision :=
      ((environment "SERIESQL_TIME_PRECISION").map Precision.ofSuffix).getD s.store.precision
    timeoutMs := ((environment "SERIESQL_TIMEOUT_MS").bind timeout?).getD s.store.timeoutMs }
  journal := {
    level := (environment "SERIESQL_LOG_LEVEL").getD s.journal.level
    format := (environment "SERIESQL_LOG_FORMAT").getD s.journal.format
    file := s.journal.file }

def ofEnvironment (environment : String → Option String) : Settings :=
  standard.override environment

def loadOverridden (environment : String → Option String) (file : Option ByteArray) :
    Except LoadError Settings :=
  (load file).map (override environment)

/-- Takes the first usable file of several places. -/
def search (environment : String → Option String) : List (Option ByteArray) → Settings
  | [] => ofEnvironment environment
  | file :: rest =>
    match loadOverridden environment file with
    | .ok settings => settings
    | .error _ => search environment rest

end Settings

end Telemetry
