import Telemetry.Text.Ranges

/-!
# White space, letters and numbers

White space is the Unicode property White_Space, twenty-five characters in ten ranges. A text is
blank when it holds nothing else; trimming removes white space at both ends. Letters are the Unicode
property Alphabetic, numbers the three categories of numbers, both of version 17.
-/

namespace Telemetry.Text

/-- Closed ranges of code points, ascending and apart. -/
def blankRanges : List (Nat × Nat) :=
  [(0x09, 0x0D), (0x20, 0x20), (0x85, 0x85), (0xA0, 0xA0), (0x1680, 0x1680), (0x2000, 0x200A),
   (0x2028, 0x2029), (0x202F, 0x202F), (0x205F, 0x205F), (0x3000, 0x3000)]

def isBlank (c : Char) : Bool :=
  blankRanges.any fun range => range.1 ≤ c.toNat && c.toNat ≤ range.2

/-- Nothing but white space; the empty text is blank. -/
def allBlank (text : String) : Bool :=
  text.toList.all isBlank

def trim (text : String) : String :=
  String.ofList ((text.toList.dropWhile isBlank).reverse.dropWhile isBlank).reverse

theorem isBlank_of_isWhitespace {c : Char} (h : c.isWhitespace = true) : isBlank c = true := by
  simp [Char.isWhitespace] at h
  rcases h with ((h | h) | h) | h <;> subst h <;> decide

/-- The set Alphabetic, beyond ASCII. -/
def alphabeticText : String :=
  "4q a 4 5-m 1-u 1-cp 4-b e-4 7 1 2e t-h 1-1 2-3 1 6 1-2 1 1-j 1-2a 1-3u 8-4l 1-11 2 6-14 13-d 1
   1-1 1-1 1 8-q 4-3 t-a 5-1j 1-6 e-2t 1-7 4-7 4-2 a-2 2 g-1b d-2s o-w 9-1 4 5-n 2-i j-o 7-a 5-n
   1-6 7 8-15 a-b 3-6 6-23 1-f 1-2 4-e d-i 1-7 2-1 2-l 1-6 1 3-3 3-7 2-1 2-1 1 8 4-1 1-4 c-1 a
   4-2 1-5 4-1 2-l 1-6 1-1 1-1 1-1 4-4 4-1 2-1 4 7-3 1 h-5 b-2 1-8 1-2 1-l 1-6 1-1 1-4 3-8 1-2
   1-1 3 f-3 l-3 4-2 1-7 2-1 2-l 1-6 1-1 1-4 3-7 2-1 2-1 9-1 4-1 1-4 d g-1 1-5 3-2 1-3 3-1 1 1-1
   3-1 3-2 3-b 4-4 3-2 1-2 3 6 14-c 1-2 1-m 1-f 3-7 1-2 1-2 8-1 1-2 1-1 2-3 s-3 1-7 1-2 1-m 1-9
   1-4 3-7 1-2 1-2 8-1 5-2 1-3 d-2 c-c 1-2 1-14 2-7 1-2 1-2 1 5-3 7-4 m-5 1-2 1-h 3-n 1-8 1 2-6
   8-5 1 1-7 i-1 d-1l 5-6 6 1f-1 1 1-4 1-n 1 1-i 1-2 2-4 1 6 e-3 w 1r-7 1-z 4-i 4-f 1-z 1v-1i 1
   2-4 g-1r a-3 2-11 1 5 2-16 1-98 1-3 2-6 1 1-3 2-14 1-3 2-w 1-3 2-6 1 1-3 2-e 1-1k 1-3 2-1u
   11-f g-2d 2-5 3-h7 2-g 1-p 5-22 3-a 7-j b-k c-j c-c 1-2 1-1 c-1f 2-i e 4 1v-2g 7-16 5-1x a-u
   1-b 4-8 n-t 2-4 b-17 4-p 1i-r 4-1q 2-j 1e n-1 b-2 1d-1f 1-e 1-7 1f-15 2-3 a-17 1-a e-1i m-2
   a-z 2-a 5-16 2-2 15-3 1-5 1-1 3 5-5b j-x b-7p 2-5 2-11 2-5 2-7 1 1 1 1-u 2-1g 1-6 1 3-2 1-6
   3-3 2-5 4-c 5-2 1-6 38 d g-c 2t 4 2-9 1 3-4 6 1 1 1-3 1-a 2-3 5-4 4 h-14 ml-1f 1ee-6c 6-3 3-1
   c-11 1 5 2-1j 7 g-m 9-6 1-6 1-6 1-6 1-6 1-6 1-6 1-6 1-v 1b d1-2 p-8 7-4 2-4 4-2d 6-2 1-2h 1-3
   5-16 1-2l h-v 1c-f e8-533 1s-h3g 1v-19 2-7g 3-f a-1 k-1a 5-7 3-34 13-8 2-2u 2-29 k-k 1-w o-1f
   c-1v 1 18-5 3 1-2 a-w 5-y d-s 3-1e 1-b f g-f a-4 1-1i 9-d i-m 3-1w 1 1 o-2 2-f 2-3 b-5 2-5 2-5
   9-6 1-6 1-16 1-d 6-3e l-8mb c-m 4-1c 6is-a5 2-2x 12-6 c-4 5-b 1-c 1-4 1 1-1 1-1 1-2z x-a2 i-1r
   2-1h 14-b 38-4 1-3q 10-p 6-p b-2g 3-5 2-5 2-5 2-2 z-b 1-p 1-i 1-1 1-e 2-d y-3e 1x-1g 7f-s 3-1c
   1b-v d-t 5-16 5-t 2-z 4-7 1-4 16-4d i-z 4-z 4-13 8-1f c-a 1-e 1-6 1-1 1-a 1-e 1-6 1-1 3-1f
   c-8m 9-l a-7 o-5 1-15 1-8 1x-5 2 1-17 1-1 3 2-m a-m 9-u 1t-i 1-1 a-l a-p 6-p 12-1j 6-1 1s-3
   1-1 5-7 1-2 1-s 16-s 3-s z-7 1-r r-1h a-l a-i d-h 32-20 1j-1e d-1e d-13 y-r 3 5-m 6y-15 1-1
   3-1 g-5 1e-2 3-s a 8-l 16-h 1a-k r-m 9-1x 17-4 a-1k 9 d-o n-1e h-3 8-y 3 9-1r 1-3 9-1 a 1 z-h
   1-x 2 6-3 1q-6 1 1-3 1-e 1-9 7-1k n-3 1-7 2-1 2-l 1-6 1-1 1-4 3-7 2-1 2-1 3 6 5-6 s-9 1 2 1-11
   1-9 1 2 1-3 1-1 3 1 18-1t 1-2 1-3 k-2 u-1t 2-1 1 54-1h 2-6 p-5 y-1q 1 3 1n-1h 2 1z-q 2-d l-6
   55-1k 2v-1r v-7 2 2-7 1-1 1-t 1-1 2-1 2-3 2l-7 2-19 2-5 1 1-1 r-1e 2-9 h-1z 5 i-20 2v-7 2g-w
   v-8 1-18 1-6 1 1d-t 2-l 1-d 21-6 1-1 1-17 3 1-1 1-2 1 2-1 o-5 1-1 1-10 1-1 1-3 1 n-17 78-m 9-g
   1-14 3-2 33 27-pl 2u-32 h-5f 218-2o f-tr h-5 p-32y 5-g6 5a1-1a 1ch-fs 7-u h-26 h-t i-1b g-3
   v-k 5-i c0-18 5v-1r w-o 2-o 18-22 4-1k 7-g 1s-1 1 c-6 9-5p1 15-v 2p-36 6pp-3 1-6 1-1 1-82 f
   t-2 2 e-3 8-az 1s4-2y 5-c 3-8 7-9 4 4m9-2c 1-1y 1-1 2 2-1 2-3 1-b 1 1-6 1-1s 1-3 2-7 1-6 1-r
   1-3 1-4 1 3-6 1-9f 2-o 1-o 1-u 1-o 1-u 1-o 1-u 1-o 1-u 1-o 1-7 1f8-u 6-5 5x-6 1-g 2-6 1-1 1-4
   5-1p x 34-18 a-6 g 8x-t i-17 dg-r 6c-t 2 5r-u 1-l 8-1 68-6 1-3 1-1 1-e 1-5g 1n-1v 3 3 xg-3 1-q
   1-1 1 2 1-9 1-3 1 1 6 4 1 1 1-2 1-1 1 2 1 1 1 1 1-1 1 2-3 1-6 1-3 1-3 1 1-9 1-g 5-2 1-4 1-g
   hg-p 6-p 6-p 2uu-wyn w-3dp 2-4gd 2-5rk f-h9 1wi-f1 15u-3t6 5-6jt"

/-- The categories of numbers: digits, letters that are numbers, and others; beyond ASCII. -/
def numericText : String :=
  "4y-1 5 2-2 141-9 3q-9 5i-9 bg-9 3a-9 4-5 30-9 3a-9 3a-9 2-5 32-c 37-9 8-6 2v-9 2w-6 7-i 31-9
   2o-9 3a-9 1y-j 7g-9 1y-9 jz-j oh-2 6n-9 6-9 m-9 8c-9 3k-a 4l-9 6-9 52-9 2e-9 3q-9 6-9 t2 3-5
   6-9 5i-1e 2-4 k6-1n 26-l hi-t 12h ll p-8 e-2 9j-3 3u-9 u-7 1-e w-9 13-e msg-9 58-9 8w-5 4a-9
   12-9 5i-9 m-9 2e-9 ba-9 geu-9 dp-18 c-1k h-1 9h-q 10-3 t 8 3q-4 5m-9 q6-7 p-6 13-8 23-4 m-5
   4g-1 2-f 2-19 1s-8 1g-1 u-2 23-4 2w-7 o-7 15-6 96-5 1c-9 6-9 7q-u 4e-9 16-3 34-6 3q-t 3k-9
   1o-9 40-9 7-j 6z-9 9i-9 3a-9 ae-9 2u-9 6-j 24-b bo-i 2l-9 ie-9 2e-s 6b-9 1y-9 1i-9 9y-9 2u-k
   tn-32 c01-9 1t2-9 2e-9 3q-9 1-6 em-9 7a-m 9p-2 id5-9 152-j c-j 30-o ut-1d 1ts-9 bq-9 dy-9 6v-9
   jw-8 3k-9 lz-1m 1-2 1-3 24-18 1-e qq-c 25f-9"

def isAlphabetic (c : Char) : Bool :=
  if c.toNat < 0x80 then c.isAlpha else (Ranges.ofText alphabeticText).holds c.toNat

def isNumeric (c : Char) : Bool :=
  if c.toNat < 0x80 then c.isDigit else (Ranges.ofText numericText).holds c.toNat

def isAlphanumeric (c : Char) : Bool := isAlphabetic c || isNumeric c

end Telemetry.Text
