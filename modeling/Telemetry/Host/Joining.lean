import Telemetry.Text.Canonical

/-!
# Joiners

Two characters without width say whether the letters around them join. In a host name both may
follow a sign that joins consonants; the one that keeps letters apart may also stand where the
letters around it would join.
-/

namespace Telemetry.Host

open Text (Ranges)

/-- The letters that join what follows them, and nothing before. -/
def joinsAfterText : String :=
  "x9u jfe 9 fc ju"

/-- The letters that join what stands before them, and nothing after. -/
def joinsBeforeText : String :=
  "17m-3 1 1 5-3 l 14-2 k-h 12 2-8 1 1 2-1 1 o-1 w 4-4 4 9 1 1 2 t b-2 f-1 4 1-1 3-1 5i 5-1 1 a
   1-2 e 1-1 5-i b r-2 1 2-1 6 1eyz 1 1-1 3-4 a 3 2 a 41 1-2 3 2 1-1 1 n-3 ad bj 34 w v-1 1q-2
   2-1 2 4-1 5"

/-- The letters that join on both sides. -/
def joinsBothText : String :=
  "17k 5 1 1-4 4-c 1-6 1-1 z-1 9-e i-11 1-1 9 1 1-1 14-2 2 i-2 5-3 1-8 1 1 1-1 v-a 3-e 2-3 1
   2-2 2-5 22-w 2e-4 2 1-9 1 a 1-3 2 t 2-4 1 g-9 5-1 2-5 1-e 30e o-2g e-x 1 sd1-1d jf2-4 e-3 1-4
   1-2 a-3 41 1 3-2 1-1 1 2 s-1 9e-w 1 bj-1 1-1 2w-2 1-g c-2 s-3 2-b 1a 1-1 4 2-1 1-1 1 2 5
   16xj-x"

/-- What joining passes over. -/
def transparentText : String :=
  "lc-1r 2 3-8 1-v 7n-6 7b-18 1 1-1 1-1 1 20-a 1c-k g 2t-6 2-5 2-1 1-3 z u-q 2j-a 1m-8 9 o-3
   1-8 1-2 1-4 17-2 1n-8 16-n 1-v 1j 1 4-7 4 3-6 a-1 t 1m 4-3 8 k-1 q 2-1 1l 4-1 4-1 2-2 3 u-1 3
   b-1 1l 4-4 1-1 4 k-1 m-5 1 1m 2 1-3 8 7-1 b-1 u 1p c 1e 3 1j 1-2 5-2 1-3 7-1 b-1 t 1m 2 6 5-1
   k-1 s-1 1l-1 4-3 8 k-1 t 20 7-2 1 2i 2-6 c-7 2q 2-8 b-6 21-1 r 1 1 1j-1 1 5-4 1 1-2 1-1 5-5
   1-3 1-3 1-3 1-3 1-3 1-b 1-2 9 2u-3 1-5 1-1 2-1 p-1 4-2 g-3 d 2-1 6 f jj-2 qa-2 t-1 u-1 u-1
   1v-6 8 2-a 9 4n-1 y 3a-2 4-1 9 6-2 63-1 2 1m 1-6 1 1 2-7 6-9 2 1c-19 2-b k-3 1c 1-4 1 5 14-8
   c-1 w-3 2-1 1-2 1k 1-1 3 1-2 1m-7 2-1 48-2 1-c 1-6 4 6 3-1 5i-1r k0-w 2da-2 3x 2o-v fe-3 2z-1
   n9w-3 1-9 w-1 28-1 7k 3 4 p-1 5 47-1 q-h d 12-7 p-a 1a-2 1c 2-3 2-1 13 1v-5 2-1 2-1 c 8 1b 1f
   1-2 2-1 5-1 1 16-1 8 6m 2 4 fn4 ld-f r1 6a 45-4 1ae-2 1-1 5-3 14-2 4 4l-1 fx-3 1t-4 8t-1 25-5
   1y-a 1d-3 3f 1i-e 15 2-1 a-2 1d-3 2-1 7 1p-2 10-4 1-7 1q c-1 1g-8 a-3 2 2n-2 2 1-1 6 2 4d 3-7
   l-1 1l-1 3 11-6 3-4 1y-5 d 1 1 e-1 2d-7 2-2 1 n 2c-5 1 4-1 1-1 6m-3 6-1 1-1 r-1 2d-7 2 1-1 2y
   1 2-5 1 2t 1 2-3 1-4 77-8 1-1 74-1 1 4 40-3 2-1 4 w-9 14-5 2-3 8 9-5 2-2 1a-c 1-1 5i 1-2 1
   5l-6 1-5 1 2a-l 2-6 1-1 1-1 3e-5 3 1-1 1-6 1 20-1 3 1 9n-1 b-1 1g-4 5 1 n 44l 6-e 8ug-b 3-2
   1xc-4 1n-6 t4 1r-3 29 f5k-1 3mp-19 2-m f4-2 h-7 2-6 u-3 44-2 1iz-1i 4-1d 8 e m-4 1-e 11s-6
   1-g 2-6 1-1 1-4 2s 4g-6 af 1p-3 e4-3 72-1 6r 2 7-1 5 d6-6 31-7"

def joinsAfter : Ranges :=
  Ranges.union (Ranges.ofText joinsAfterText) (Ranges.ofText joinsBothText)

def joinsBefore : Ranges :=
  Ranges.union (Ranges.ofText joinsBeforeText) (Ranges.ofText joinsBothText)

def transparent : Ranges := Ranges.ofText transparentText

/-- The first letter that joining does not pass over is in a set. -/
def meets (set : Ranges) (letters : List Nat) : Bool :=
  (letters.find? fun code => !transparent.holds code).any set.holds

/-- Each joiner of a label may stand where it stands; `before` is what stands before, the latest
first. -/
def joinersKept (before : List Nat) : List Nat → Bool
  | [] => true
  | code :: rest =>
    let afterSign := before.head?.any (Text.markClass · = 9)
    let kept :=
      if code = 0x200D then afterSign
      else if code = 0x200C then
        afterSign || meets joinsAfter before && meets joinsBefore rest
      else true
    kept && joinersKept (code :: before) rest

end Telemetry.Host
