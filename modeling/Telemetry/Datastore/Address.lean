import Telemetry.Host
import Telemetry.Number.Read

/-!
# Addresses

An absolute `http` address: the host that is asked, with the number of its service, and what a
request line shows, the segments of a path and a query. Segments are percent-encoded where the URL
standard asks for it; `.` and `..` are resolved, a backslash separates like a slash, and what
follows `#` is not sent. The parameters of a request are appended to the query as a form.
-/

namespace Telemetry

structure Address where
  scheme : String
  host : Host
  service : Option Nat
  segments : List String
  query : Option String
  fragment : Option String
deriving DecidableEq, Repr

namespace Address

def percentByte (b : UInt8) : String :=
  let digit (n : Nat) := (Nat.digitChar n).toUpper
  String.ofList ['%', digit (b.toNat / 16), digit (b.toNat % 16)]

def percentChar (c : Char) : String :=
  String.join ((String.utf8EncodeChar c).map percentByte)

/-- Encodes the marked characters and all beyond printable ASCII. -/
def percentEncode (marked : List Char) (text : List Char) : String :=
  String.join <| text.map fun c =>
    if c.toNat < 0x20 || 0x7E < c.toNat || marked.contains c then percentChar c else c.toString

def markedInPath : List Char := [' ', '"', '#', '<', '>', '?', '`', '\x7b', '\x7d']

def markedInQuery : List Char := [' ', '"', '#', '<', '>', '\x27']

def markedInFragment : List Char := [' ', '"', '<', '>', '`']

def formText (text : String) : String :=
  String.join <| text.toList.map fun c =>
    if c.isAlphanum || ['*', '-', '.', '_'].contains c then c.toString
    else if c = ' ' then "+" else percentChar c

/-- The parts between separators, one more than there are separators. -/
def splitAt (separator : Char → Bool) : List Char → List (List Char)
  | [] => [[]]
  | c :: rest =>
    let parts := splitAt separator rest
    if separator c then [] :: parts
    else match parts with
      | [] => [[c]]
      | first :: others => (c :: first) :: others

/-- A segment that stands for the directory itself, or for the one above. -/
def dots (segment : List Char) : Option Nat :=
  match String.ofList (segment.map Char.toLower) with
  | "." | "%2e" => some 1
  | ".." | ".%2e" | "%2e." | "%2e%2e" => some 2
  | _ => none

/-- Resolves segments against those before them, which are in reverse order. -/
def resolve (before : List String) : List (List Char) → List String
  | [] => before.reverse
  | segment :: rest =>
    let kept := match dots segment with
      | some 1 => before
      | some _ => before.drop 1
      | none => percentEncode markedInPath segment :: before
    if rest.isEmpty && (dots segment).isSome then ("" :: kept).reverse else resolve kept rest

def isSlash (c : Char) : Bool := c = '/' || c = '\\'

def endsAuthority (c : Char) : Bool := isSlash c || c = '?' || c = '#'

def schemeChar (c : Char) : Bool := c.isAlphanum || ['+', '-', '.'].contains c

/-- The scheme in small letters and what follows its colon. -/
def takeScheme? (text : List Char) : Option (String × List Char) :=
  match text.takeWhile schemeChar, text.dropWhile schemeChar with
  | first :: more, ':' :: rest =>
    if first.isAlpha then some (String.ofList ((first :: more).map Char.toLower), rest) else none
  | _, _ => none

/-- The number after a host: none, or one of sixteen bits. -/
def service? (digits : List Char) : Option (Option Nat) :=
  if digits.isEmpty then some none
  else if digits.all Char.isDigit && digitsValue digits < Nat.pow 2 16 then
    some (some (digitsValue digits))
  else none

/-- The host and its number, after the credentials. A colon in brackets is one of the host. -/
def authority? (authority : List Char) : Option (Host × Option Nat) := do
  let text := (authority.reverse.takeWhile (· ≠ '@')).reverse
  let count := match text with
    | '[' :: inner => (inner.takeWhile (· ≠ ']')).length + 1
    | _ => 0
  let name := text.take count ++ (text.drop count).takeWhile (· ≠ ':')
  let host ← Host.ofText? name
  let service ← service? ((text.drop name.length).drop 1)
  return (host, service)

/-- The number of a service that goes without saying. -/
def standardService (scheme : String) : Nat := if scheme = "https" then 443 else 80

/-- Blanks around an address and breaks inside it count for nothing. -/
def cleaned (text : String) : List Char :=
  let blank (c : Char) : Bool := c.toNat ≤ 0x20
  let inner := ((text.toList.dropWhile blank).reverse.dropWhile blank).reverse
  inner.filter fun c => !(c = '\t' || c = '\n' || c = '\r')

/-- Reads an absolute address of a server that can be asked. -/
def ofText? (text : String) : Option Address := do
  let (scheme, rest) ← takeScheme? (cleaned text)
  if scheme ≠ "http" ∧ scheme ≠ "https" then none
  let rest := rest.dropWhile isSlash
  let (host, service) ← authority? (rest.takeWhile fun c => !endsAuthority c)
  let rest := rest.dropWhile fun c => !endsAuthority c
  let whole := rest.takeWhile (· ≠ '#')
  let path := whole.takeWhile (· ≠ '?')
  let query := match whole.dropWhile (· ≠ '?') with
    | _ :: query => some (percentEncode markedInQuery query)
    | [] => none
  let fragment := match rest.dropWhile (· ≠ '#') with
    | _ :: fragment => some (percentEncode markedInFragment fragment)
    | [] => none
  let segments := resolve [] (splitAt isSlash (path.drop 1))
  let service := service.filter (· ≠ standardService scheme)
  return ⟨scheme, host, service, segments, query, fragment⟩

/-- Path and query of a request with parameters. -/
def target (a : Address) (parameters : List (String × String)) : String :=
  let form := parameters.map fun (key, value) => formText key ++ "=" ++ formText value
  let query := (a.query.filter (· ≠ "")).toList ++ form
  "/" ++ "/".intercalate a.segments ++ "?" ++ "&".intercalate query

/-- The address of a request with parameters. -/
def text (a : Address) (parameters : List (String × String)) : String :=
  let service := (a.service.map fun n => ":" ++ toString n).getD ""
  let fragment := (a.fragment.map ("#" ++ ·)).getD ""
  a.scheme ++ "://" ++ a.host.text ++ service ++ a.target parameters ++ fragment

/-- The longest address that is sent. -/
def maxLength : Nat := 65534

/-- A request can be sent: its host holds no quotes or braces, and its address is not too long. -/
def isSendable (a : Address) (parameters : List (String × String)) : Bool :=
  (a.host.text.toList.all fun c => !(['"', '`', '\x7b', '\x7d'].contains c)) &&
    (a.text parameters).utf8ByteSize ≤ maxLength

end Address

end Telemetry
