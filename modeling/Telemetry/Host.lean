import Telemetry.Host.Direction
import Telemetry.Host.Joining
import Telemetry.Host.Mapping
import Telemetry.Host.Numeric
import Telemetry.Host.Punycode

/-!
# Hosts

The host of an address: a name, or a numeric address of either kind; the longer kind stands in
brackets. A text is read after its percent signs are resolved.

A host name is a text of labels between dots. Its characters are replaced by those that they stand
for, the result is composed, and each label is checked: its characters stand for themselves, it
begins with no mark, joiners stand where they may, and directions do not mix. Labels beyond ASCII
are written in ASCII behind `xn--`. A label that is written so already must be the writing of one.
-/

namespace Telemetry

namespace Host

/-- The marks that may stand in a host name (version 17 of the tables). -/
def markText : String :=
  "lc-1r 2 3-8 1-v 7n-6 7b-18 1 1-1 1-1 1 20-a 1c-k g 2t-6 2-5 2-1 1-3 z u-q 2j-a 1m-8 9 o-3
   1-8 1-2 1-4 17-2 1n-8 16-n 1-w 1i-2 1-h 1-6 a-1 t-2 1k 1-6 2-1 2-2 9 a-1 q 2-2 1k 1-4 4-1 2-2
   3 u-1 3 b-2 1k 1-7 1-2 1-2 k-1 m-5 1-2 1k 1-6 2-1 2-2 7-2 a-1 u 1n-4 3-2 1-3 9 14-4 1j 1-6
   1-2 1-3 7-1 b-1 t-2 1k 1-6 1-2 1-3 7-1 b-1 f c-3 1j-1 1-6 1-2 1-3 9 a-1 t-2 1y 4-5 1 1-7 i-1
   1p 2-6 c-7 2q 2-8 b-6 21-1 r 1 1 4-1 1d-1 1 5-6 1-2 1-1 5-5 1-3 1-3 1-3 1-3 1-3 1-b 1-2 9
   2s-j n-3 4-2 1-2 2-6 3-3 d-b 1 a-3 jj-2 qa-3 s-2 t-1 u-1 1u-t 9 4n-1 y 3a-b 4-b 63-4 1l-9 1-s
   2 1c-19 2-b k-4 1b-g 12-8 c-2 u-c 1k-d 1c-j 48-2 1-k 4 6 2-2 5i-1r k0-w 2da-2 3x 2o-v fe-5
   2x-1 n9w-3 1-9 w-1 28-1 7k 3 4 n-4 4 2b-1 1e-h q-h d 12-7 p-c 18-3 1b-d 10 1v-d c 8-1 19-2 1e
   1-2 2-1 5-1 1 15-4 5-1 6k-7 1-1 fn4 ld-f r1 6a 45-4 1ae-2 1-1 5-3 14-2 4 4l-1 fx-3 1t-4 8t-1
   25-5 1y-a 1d-3 3e-2 1h-e 15 2-1 a-3 19-a 7 1p-2 10-d g-1 18 c-2 1c-d 8-3 1-1 2k-b 6 2 4d-b
   l-3 1j-1 1-6 2-1 2-2 9 a-1 2-6 3-4 1v-8 1 2 1-3 1-4 1 e-1 2a-h n 29-j 6j-6 2-8 r-1 2a-g 2y-c
   2t-e 74-e 6t-5 1-1 2-3 1 1-1 3x-6 2-6 3 s-9 14-6 1-3 8 9-a 1a-f 5i-7 5j-7 1-7 2a-l 1-d 3e-5 3
   1-1 1-6 1 1u-4 1-1 1-4 9n-3 9-1 1 1c-6 3-4 n 44l 6-e 8ug-h 1xc-4 1n-6 t4 1-1i 7-3 29 b-1
   f57-1 3mp-19 2-m f2-4 3-5 8-7 2-6 u-3 44-2 1iz-1i 4-1d 8 e m-4 1-e 11s-6 1-g 2-6 1-1 1-4 2s
   4g-6 af 1p-3 e4-3 72-1 6r 2 7-1 5 d6-6 31-6"

def marks : Text.Ranges := Text.Ranges.ofText markText

def isMark (code : Nat) : Bool := marks.holds code

/-- The parts between dots. -/
def labels : List Nat → List (List Nat)
  | [] => [[]]
  | code :: rest =>
    match labels rest with
    | [] => [[code]]
    | label :: others =>
      if code = 0x2E then [] :: label :: others else (code :: label) :: others

/-- What a written label begins with. -/
def mark : List Nat := "xn--".toList.map Char.toNat

/-- How long a label may be for its writing to be worked out. -/
def maxWritten : Nat := 2000

def maxUnwritten : Nat := 1000

/-- The characters of a label may stand in it. -/
def labelKept (label : List Nat) : Bool :=
  label.all isPlain && !label.head?.any isMark && joinersKept [] label

/-- The label that a written one stands for; any other stands for itself. -/
def unwritten? (label : List Nat) : Option (List Nat) :=
  if mark.isPrefixOf label then do
    let text := label.drop mark.length
    if label.any (0x80 ≤ ·) || maxWritten < text.length || text.getLast? = some 0x2D then none
    let decoded ← Punycode.decode? text
    if decoded.all (· < 0x80) || Text.canonical decoded ≠ decoded then none else some decoded
  else some label

/-- A label as it is written in ASCII. -/
def written? (label : List Nat) : Option (List Nat) :=
  if label.all (· < 0x80) then some label
  else if maxUnwritten < label.length then none
  else some (mark ++ Punycode.encode label)

/-- Characters of ASCII that no host name holds. -/
def isForbidden (code : Nat) : Bool :=
  code ≤ 0x20 || code = 0x7F || ("%#/:<>?@[\\]^|".toList.map Char.toNat).contains code

/-- A host name in ASCII. -/
def name? (text : List Char) : Option (List Char) := do
  let mapped ← text.mapM fun c => mapped? c.toNat
  let parts := labels (Text.canonical mapped.flatten)
  let meant ← parts.mapM unwritten?
  if !meant.all labelKept || !directionsKept meant then none
  let ascii ← parts.mapM written?
  let codes := List.intercalate [0x2E] ascii
  if codes.any isForbidden then none else some (codes.map Char.ofNat)

end Host

inductive Host where
  | name (ascii : String)
  | short (address : Nat)
  | long (groups : List Nat)
deriving DecidableEq, Repr

namespace Host

/-- The bytes that a text stands for: a percent sign with two hexadecimal digits is a byte. -/
def bytes : List Char → List UInt8
  | [] => []
  | '%' :: a :: b :: rest =>
    match hexValue? a, hexValue? b with
    | some high, some low => UInt8.ofNat (16 * high + low) :: bytes rest
    | _, _ => '%'.toUInt8 :: bytes (a :: b :: rest)
  | c :: rest => String.utf8EncodeChar c ++ bytes rest

def ofText? (text : List Char) : Option Host :=
  match text with
  | '[' :: rest =>
    if rest.getLast? = some ']' then (eightGroups? rest.dropLast).map long else none
  | text => do
    let decoded ← String.fromUTF8? ⟨(bytes text).toArray⟩
    let host ← name? decoded.toList
    if host.isEmpty then none
    else if endsInNumber host then (fourParts? host).map short
    else some (name (String.ofList host))

def text : Host → String
  | name ascii => ascii
  | short address => fourPartsText address
  | long groups => "[" ++ eightGroupsText groups ++ "]"

end Host

end Telemetry
