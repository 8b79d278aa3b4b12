import RunReport.Unicode.Ranges

/-!
# Breaks

What a character is for telling apart what a reader takes for one character, words and sentences,
as data of the Unicode character database, version 15.

## Main definitions

* `clusters`, `words`, `sentences`: The three kinds of breaks, each with its classes.
-/

namespace RunReport

namespace Unicode

namespace Break

/-- The Hangul syllables from one to another of the 28 that share their first two letters. -/
def syllables (first last : Nat) : Ranges :=
  (List.range 399).map fun block => (0xAC00 + 28 * block + first, 0xAC00 + 28 * block + last)

/-- Where a character stands in a cluster: short name, long name, ranges. -/
def clusters : List (String × String × Ranges) :=
  [("CR", "CR", Ranges.ofText "d 0"),
   ("CN", "Control", Ranges.ofText
      "0 9 1 1 1 h 2n w d 0 12m 0 3jl 0 1ks 0 2 1 o 6 1d f 17yn 0 6o b ab8 f qxs 3 43z 7 h405 v
       2o 3j 6o 2rz"),
   ("EX", "Extend", Ranges.ofText
      "lc 33 7n 6 7b 18 1 0 1 1 1 1 1 0 20 a 1c k g 0 2t 6 2 5 2 1 1 3 z 0 u q 2j a 1m 8 9 0 o 3
       1 8 1 2 1 4 17 2 1o 7 16 n 1 v 1j 0 1 0 4 7 4 0 3 6 a 1 t 0 1m 0 1 0 2 3 8 0 9 0 a 1 q 0 2
       1 1l 0 4 1 4 1 2 2 3 0 u 1 3 0 b 1 1l 0 4 4 1 1 4 0 k 1 m 5 1 0 1m 0 1 1 1 3 8 0 7 2 a 1 u
       0 1n 0 1 0 c 0 9 0 14 0 3 0 1j 0 1 2 5 2 1 3 7 1 b 1 t 0 1m 0 2 0 2 0 3 0 5 1 7 1 b 1 s 1
       1l 1 1 0 2 3 8 0 9 0 a 1 t 0 20 0 4 0 2 2 1 0 8 0 29 0 2 6 c 7 2q 0 2 8 b 6 21 1 r 0 1 0 1
       0 1j d 1 4 1 1 5 a 1 z 9 0 2u 3 1 5 1 1 2 1 p 1 4 2 g 3 d 0 2 1 6 0 f 0 jj 2 qa 2 t 1 u 1
       u 1 1s 1 1 6 8 0 2 a 9 0 19 2 1 0 39 1 y 0 3a 2 4 1 9 0 6 2 63 1 2 0 1m 0 1 6 1 0 1 0 2 7
       6 9 2 0 1c u 1d 3 1c 6 1 0 5 0 14 8 c 1 w 3 2 1 1 2 1k 0 1 1 3 0 1 2 1m 7 2 1 48 2 1 c 1 6
       4 0 6 0 3 1 5i 1r ek 0 5f w 2da 2 3x 0 2o v fe 5 2x 1 n9w 3 1 9 w 1 28 1 7k 0 3 0 4 0 p 1
       5 0 47 1 q h d 0 12 7 p a 1a 2 1c 0 2 3 2 1 13 0 1v 5 2 1 2 1 c 0 8 0 1b 0 1f 0 1 2 2 1 5
       1 1 0 16 1 8 0 6m 0 2 0 4 0 fn4 0 kh f g f a6 1 gt 0 6a 0 45 4 1ae 2 1 1 5 3 14 2 4 0 4l 1
       fx 3 ar 1 28 2 1y a 1d 3 3f 0 1i e 15 0 2 1 a 2 1d 3 2 1 7 0 1p 2 10 4 1 7 1q 0 c 1 1g 8 a
       3 2 0 2n 2 2 0 1 1 6 0 2 0 4d 0 3 7 l 1 1l 1 1 0 1 0 m 0 e 6 3 4 5f 7 2 2 1 0 n 0 29 0 2 5
       1 0 2 0 1 1 1 1 6j 0 2 3 6 1 1 1 r 1 2d 7 2 0 1 1 2y 0 1 0 2 5 1 0 2t 2 2 3 1 4 77 8 1 1
       6t 0 a 1 1 0 4 0 40 3 2 1 4 0 w 9 14 5 2 3 8 0 9 5 2 2 1a c 1 1 ba 6 1 5 1 0 2a l 2 6 1 1
       1 1 3e 5 3 0 1 1 1 6 1 0 20 1 3 0 1 0 9n 1 b 1 1g 4 5 0 1 0 459 0 6 e asa 4 1n 6 t4 0 1r 3
       29 0 f5k 1 3mp 19 2 m f2 0 1 2 4 4 8 7 2 6 u 3 44 2 1iz 1i 4 1d 8 0 e 0 m 4 1 e 11s 6 1 g
       2 6 1 1 1 4 2s 0 4g 6 af 0 1p 3 e4 3 rk 6 31 6 240 4 gx7k 2n 3k 6n"),
   ("L", "L", Ranges.ofText "3cw 2n u0w s"),
   ("LF", "LF", Ranges.ofText "a 0"),
   ("LV", "LV", syllables 0 0),
   ("LVT", "LVT", syllables 1 27),
   ("PP", "Prepend", Ranges.ofText
      "16o 5 5z 0 1d 0 ao 1 28 0 vf 0 1f8u 0 f 0 6s 1 1h7 0 1 0 6w 0 21 5 jg 0 cb 0"),
   ("RI", "Regional_Indicator", Ranges.ofText "2qcm p"),
   ("SM", "SpacingMark", Ranges.ofText
      "1s3 0 1j 0 2 2 8 3 1 1 1e 1 1n 1 6 1 2 1 1i 0 1m 2 1u 0 1m 2 8 0 1 1 1h 1 1o 0 6 1 2 1 36
       0 1 1 3 2 1 2 1g 2 1p 3 1p 1 1m 0 1 1 1 1 2 1 1 1 13 0 e 1 1n 1 5 2 1 2 1h 1 24 1 6 6 j 1
       1r 0 3j 0 3u 1 1r 0 4x 0 9 1 p 1 18 0 1ao 0 u 0 3l 0 7 7 1 1 9m 3 2 2 4 1 1 5 68 1 1m 0 1
       0 l 5 41 0 1i 0 1 4 1 1 1p 0 u 0 4 1 2 0 1o 0 2 2 1 0 3 1 1c 7 8 1 4r 0 l 0 rhn 1 2 0 2g 1
       1e f 3y 1 1b 0 1c 1 4 1 2 2 32 1 2 1 o 0 4d 0 2 1 5 0 6l 1 1 1 1 1 1 0 jrn 0 1 0 3j 0 19 2
       4 1 37 0 o 1 1n 0 1c 2 9 1 d 0 2l 2 3 1 1 0 4q 2 v 1 1n 0 1 3 2 1 2 2 k 1 5t 2 8 1 3 0 2z
       1 6 0 1 1 1 0 2 0 6m 1 6 3 2 0 35 2 8 1 1 0 31 0 1 1 6 0 33 0 79 2 9 0 6w 4 1 1 4 0 2 0 1
       0 3y 2 8 3 4 0 2c 0 t 1 1q 0 bb 0 e 0 2y 0 7 0 2 0 5x 4 4 1 1 0 9q 1 c 0 1c 1 8 1 1 0 ftb
       1i 2w 1 j90 0 6 0"),
   ("T", "T", Ranges.ofText "3hk 2f 132j 1c"),
   ("V", "V", Ranges.ofText "3fk 1z 1348 m"),
   ("ZWJ", "ZWJ", Ranges.ofText "6bx 0")]

/-- What a character is where words are told apart: short name, long name, ranges. -/
def words : List (String × String × Ranges) :=
  [("LE", "ALetter", Ranges.ofText
      "1t p 6 p 1b 0 a 0 4 0 5 m 1 u 1 db 6 x 34 4 1 1 2 3 1 0 6 0 1 2 1 0 1 j 1 2a 1 3u 8 4l 1
       11 2 3 1 0 1 14 1 0 2w 0 18 16 z 1 1 2q 1 0 f 1 7 1 a 2 2 0 g 0 1 t t 2g b 0 o w 9 1 4 0 5
       l 4 0 9 0 3 0 n o 7 a 5 n 1 5 h 15 1m 1h 3 0 i 0 7 9 f f 4 7 2 1 2 l 1 6 1 0 3 3 3 0 g 0 d
       1 1 2 e 1 a 0 8 5 4 1 2 l 1 6 1 1 1 1 1 1 v 3 1 0 j 2 g 8 1 2 1 l 1 6 1 1 1 4 3 0 i 0 f 1
       n 0 b 7 2 1 2 l 1 6 1 1 1 4 3 0 u 1 1 2 f 0 h 0 1 5 3 2 1 3 3 1 1 0 1 1 3 1 3 2 3 b m 0 1g
       7 1 2 1 m 1 f 3 0 q 2 2 0 2 1 u 0 4 7 1 2 1 m 1 9 1 4 3 0 v 1 1 1 f 1 h 8 1 2 1 14 2 0 g 0
       5 2 8 2 o 5 5 h 3 n 1 8 1 0 2 6 8p 0 1r 7 1 z r 4 7n 11 1 0 5 0 2 16 1 98 1 3 2 6 1 0 1 3
       2 14 1 3 2 w 1 3 2 6 1 0 1 3 2 e 1 1k 1 3 2 1u 11 f g 2d 2 5 3 h7 2 g 1 p 5 22 3 a 7 h d i
       e h e c 1 2 4v 2g 7 4 2 x 1 0 5 1x a u 69 m 6m 1a h 7 1i t d 1 a 17 q z 15 2 a z 2 8 7 16
       2 2 15 3 1 5 1 1 3 0 5 5b 1s 7p 2 5 2 11 2 5 2 7 1 0 1 0 1 0 1 u 2 1g 1 6 1 0 3 2 1 6 3 3
       2 5 4 c 5 2 1 6 38 0 d 0 g c 2t 0 4 0 2 9 1 0 3 4 6 0 1 0 1 0 1 3 1 a 2 3 5 4 4 0 h 14 ml
       1f 1ee 6c 6 3 3 1 c 11 1 0 5 0 2 1j 7 0 g m 9 6 1 6 1 6 1 6 1 6 1 6 1 6 1 6 28 0 d1 0 1h 1
       5k 16 1 2l h v ls0 wc 1v 19 2 7g 3 f a 1 k 1a g u 2 27 o 5e 5 1 1 0 1 4 o f 1 2 1 3 1 m t
       1f e 1d 1q 5 3 0 1 1 b r a m p s 7 1a s 0 1c 14 n 2 1 7 44 a 7 2 c 5 2 5 2 5 9 6 1 6 1 1l
       6 36 t 8mb c m 4 1c 6x0 6 c 4 1k 2p x a2 i 1r 2 1h 14 b 38 4 1 3q 10 p 6 p 1x u 3 5 2 5 2
       5 2 2 z b 1 p 1 i 1 1 1 e 2 d y 3e 1x 1g 7f s 3 1c 1b v d t 5 11 a t 2 z 4 7 1 4 16 4d i z
       4 z 4 13 8 1f c a 1 e 1 6 1 1 1 a 1 e 1 6 1 1 1v 8m 9 l a 7 o 5 1 15 1 8 1x 5 2 0 1 17 1 1
       3 0 2 m a m 9 u 1t i 1 1 a l a p 1y 1j 6 1 1s 0 f 3 1 2 1 s 16 s 3 s z 7 1 r r 1h a l a i
       d h 32 20 1j 1e d 1e d z 9o 15 6 1 26 s a 0 8 l 16 h 1a k r m c 1g 1l 1 2 0 d 18 w o q z t
       0 2 0 8 y 3 0 c 1b e 3 l 0 1 0 z h 1 o j 1 1r 6 1 0 1 3 1 e 1 9 7 1a 12 7 2 1 2 l 1 6 1 1
       1 4 3 0 i 0 c 4 4e 1g i 3 k 2 u 1b k 1 1 0 54 1a 15 3 10 1b k 0 1n 16 d 0 93 17 38 1r v 7
       2 0 2 7 1 1 1 n f 0 1 0 2m 7 2 12 g 0 1 0 s 0 a 13 7 0 l 0 b 19 j 0 i 20 7b 8 1 10 h 0 1d
       t 34 6 1 1 1 11 l 0 p 5 1 1 1 v e 0 93 i f 0 1 c 1 x 3g 0 27 pl 2u 32 h 5f 218 2o f tr h 5
       33t g6 6nt fs 7 u h 26 h t i 1b g 3 v k 5 i j4 1r 3k 22 5 0 1u c 1s 1 1 0 f18 2y 5 c 3 8 7
       9 4me 2c 1 1y 1 1 2 0 2 1 2 3 1 b 1 0 1 6 1 1s 1 3 2 7 1 6 1 r 1 3 1 4 1 0 3 6 1 9f 2 o 1
       o 1 u 1 o 1 u 1 o 1 u 1 o 1 u 1 o 1 7 1f8 u 6 5 79 1p 42 18 a 6 g 0 8x t i 17 dg r l0 6 1
       3 1 1 1 e 1 5g 1n 1v 7 0 xg 3 1 q 1 1 1 0 2 0 1 9 1 3 1 0 1 0 6 0 4 0 1 0 1 0 1 2 1 1 1 0
       2 0 1 0 1 0 1 0 1 0 1 1 1 0 2 3 1 6 1 3 1 3 1 0 1 9 1 g 5 2 1 4 1 g hg p 6 p 6 p"),
   ("CR", "CR", Ranges.ofText "d 0"),
   ("DQ", "Double_Quote", Ranges.ofText "y 0"),
   ("Extend", "Extend", Ranges.ofText
      "lc 33 7n 6 7b 18 1 0 1 1 1 1 1 0 20 a 1c k g 0 2t 6 2 5 2 1 1 3 z 0 u q 2j a 1m 8 9 0 o 3
       1 8 1 2 1 4 17 2 1o 7 16 n 1 w 1i 2 1 h 1 6 a 1 t 2 1k 0 1 6 2 1 2 2 9 0 a 1 q 0 2 2 1k 0
       1 4 4 1 2 2 3 0 u 1 3 0 b 2 1k 0 1 7 1 2 1 2 k 1 m 5 1 2 1k 0 1 6 2 1 2 2 7 2 a 1 u 0 1n 4
       3 2 1 3 9 0 14 4 1j 0 1 6 1 2 1 3 7 1 b 1 t 2 1k 0 1 6 1 2 1 3 7 1 b 1 f 0 c 3 1j 1 1 6 1
       2 1 3 9 0 a 1 t 2 1y 0 4 5 1 0 1 7 i 1 1p 0 2 6 c 7 2q 0 2 8 b 6 21 1 r 0 1 0 1 0 4 1 1d j
       1 1 5 a 1 z 9 0 2s j n 3 4 2 1 2 2 6 3 3 d b 1 0 a 3 jj 2 qa 3 s 2 t 1 u 1 1s v 9 0 19 2 1
       0 39 1 y 0 3a b 4 b 63 4 1l 9 1 s 2 0 1c u 1d 4 1b g 12 8 c 2 u c 1k d 1c j 48 2 1 k 4 0 6
       0 2 2 5i 1r ek 0 5f w 2da 2 3x 0 2o v fe 5 2x 1 n9w 3 1 9 w 1 28 1 7k 0 3 0 4 0 n 4 4 0 2b
       1 1e h q h d 0 12 7 p c 18 3 1b d 10 0 1v d c 0 8 1 19 2 1e 0 1 2 2 1 5 1 1 0 15 4 5 1 6k
       7 1 1 fn4 0 kh f g f a6 1 gt 0 6a 0 45 4 1ae 2 1 1 5 3 14 2 4 0 4l 1 fx 3 ar 1 28 2 1y a
       1d 3 3e 2 1h e 15 0 2 1 a 3 19 a 7 0 1p 2 10 d g 1 18 0 c 2 1c d 8 3 1 1 2k b 6 0 2 0 4d b
       l 3 1j 1 1 6 2 1 2 2 9 0 a 1 2 6 3 4 5c h n 0 29 j 6j 6 2 8 r 1 2a g 2y c 2t e 74 e 6t 5 1
       1 2 3 1 0 1 1 3x 6 2 6 3 0 s 9 14 6 1 3 8 0 9 a 1a f b9 7 1 7 2a l 1 d 3e 5 3 0 1 1 1 6 1
       0 1u 4 1 1 1 4 9n 3 9 1 1 0 1c 6 3 4 459 0 6 e asa 4 1n 6 t4 0 1 1i 7 3 29 0 b 1 f57 1 3mp
       19 2 m f2 4 3 5 8 7 2 6 u 3 44 2 1iz 1i 4 1d 8 0 e 0 m 4 1 e 11s 6 1 g 2 6 1 1 1 4 2s 0 4g
       6 af 0 1p 3 e4 3 rk 6 31 6 240 4 gx7k 2n 3k 6n"),
   ("EX", "ExtendNumLet", Ranges.ofText "2n 0 6a7 0 f 1 j 0 17tq 1 o 2 6n 0"),
   ("FO", "Format", Ranges.ofText
      "4t 0 11u 5 m 0 5c 0 1d 0 ao 1 28 0 2zv 0 1kv 1 q 4 1d 4 1 9 17yn 0 6x 2 3b5 0 f 0 6zm f
       qxs 3 43z 7 h406 0"),
   ("HL", "Hebrew_Letter", Ranges.ofText "15c q 4 3 1cfe 0 1 9 1 c 1 4 1 0 1 1 1 1 1 9"),
   ("KA", "Katakana", Ranges.ofText
      "9ip 4 2t 1 3 2i 1 3 6o f 5s 1a 1 2f 14b2 1j ytu 3 1 6 1 1 1 0 7z 2 1e 0 e 3"),
   ("LF", "LF", Ranges.ofText "a 0"),
   ("ML", "MidLetter", Ranges.ofText "1m 0 3g 0 jz 0 d3 0 44 0 56a 0 17u3 0 1t 0 5g 0"),
   ("MN", "MidNum", Ranges.ofText
      "18 0 e 0 n6 0 ei 0 3m 1 2m 0 az 0 4sr 0 17t7 0 3 0 1n 0 3 0 53 0 e 0"),
   ("MB", "MidNumLet", Ranges.ofText "1a 0 6ax 1 a 0 17vx 0 50 0 6 0"),
   ("NL", "Newline", Ranges.ofText "b 1 3c 0 68y 1"),
   ("NU", "Numeric", Ranges.ofText
      "1c 9 17q 9 1 0 3o 9 5i 9 bg 9 3a 9 3a 9 3a 9 3a 9 3a 9 3a 9 3a 9 3a 9 3a 9 2o 9 3a 9 1y 9
       7q 9 1y 9 1fq 9 12 9 8c 9 3k 9 4m 9 6 9 52 9 2e 9 3q 9 6 9 r7q 9 iu 9 12 9 5i 9 m 9 2e 9
       ba 9 geu 9 13a 9 1om 9 mk 9 3k 9 1o 9 40 9 7q 9 9i 9 3a 9 ae 9 2u 9 2u 9 bq 9 2u 9 l2 9 6u
       9 1y 9 bq 9 eti 9 2e 9 3q 9 lf8 1d 1ts 9 bq 9 dy 9 uu 9 3o6 9"),
   ("RI", "Regional_Indicator", Ranges.ofText "2qcm p"),
   ("SQ", "Single_Quote", Ranges.ofText "13 0"),
   ("WSegSpace", "WSegSpace", Ranges.ofText "w 0 4f3 0 1vj 6 1 2 2c 0 334 0"),
   ("ZWJ", "ZWJ", Ranges.ofText "6bx 0")]

/-- What a character is where sentences are told apart: short name, long name, ranges. -/
def sentences : List (String × String × Ranges) :=
  [("AT", "ATerm", Ranges.ofText "1a 0 6b9 0 17vx 0 57 0"),
   ("CR", "CR", Ranges.ofText "d 0"),
   ("CL", "Close", Ranges.ofText
      "y 0 4 2 1d 0 1 0 t 0 1 0 19 0 f 0 2v2 3 1gd 1 1vf 7 p 1 a 1 1i 1 e 1 hl 3 t 1 ts 5 7 d 27
       1 v 9 b7 l 1r 3 w 1 si d e 1 2 9 o 0 i 7 bv 9 2 7 1 2 14im 1 5z 1 s f 2 1 g 5 4p 1 1d 0 1
       0 t 0 1 0 1 1 1 1 1csy 2"),
   ("EX", "Extend", Ranges.ofText
      "lc 33 7n 6 7b 18 1 0 1 1 1 1 1 0 20 a 1c k g 0 2t 6 2 5 2 1 1 3 z 0 u q 2j a 1m 8 9 0 o 3
       1 8 1 2 1 4 17 2 1o 7 16 n 1 w 1i 2 1 h 1 6 a 1 t 2 1k 0 1 6 2 1 2 2 9 0 a 1 q 0 2 2 1k 0
       1 4 4 1 2 2 3 0 u 1 3 0 b 2 1k 0 1 7 1 2 1 2 k 1 m 5 1 2 1k 0 1 6 2 1 2 2 7 2 a 1 u 0 1n 4
       3 2 1 3 9 0 14 4 1j 0 1 6 1 2 1 3 7 1 b 1 t 2 1k 0 1 6 1 2 1 3 7 1 b 1 f 0 c 3 1j 1 1 6 1
       2 1 3 9 0 a 1 t 2 1y 0 4 5 1 0 1 7 i 1 1p 0 2 6 c 7 2q 0 2 8 b 6 21 1 r 0 1 0 1 0 4 1 1d j
       1 1 5 a 1 z 9 0 2s j n 3 4 2 1 2 2 6 3 3 d b 1 0 a 3 jj 2 qa 3 s 2 t 1 u 1 1s v 9 0 19 2 1
       0 39 1 y 0 3a b 4 b 63 4 1l 9 1 s 2 0 1c u 1d 4 1b g 12 8 c 2 u c 1k d 1c j 48 2 1 k 4 0 6
       0 2 2 5i 1r ek 1 5e w 2da 2 3x 0 2o v fe 5 2x 1 n9w 3 1 9 w 1 28 1 7k 0 3 0 4 0 n 4 4 0 2b
       1 1e h q h d 0 12 7 p c 18 3 1b d 10 0 1v d c 0 8 1 19 2 1e 0 1 2 2 1 5 1 1 0 15 4 5 1 6k
       7 1 1 fn4 0 kh f g f a6 1 gt 0 6a 0 45 4 1ae 2 1 1 5 3 14 2 4 0 4l 1 fx 3 ar 1 28 2 1y a
       1d 3 3e 2 1h e 15 0 2 1 a 3 19 a 7 0 1p 2 10 d g 1 18 0 c 2 1c d 8 3 1 1 2k b 6 0 2 0 4d b
       l 3 1j 1 1 6 2 1 2 2 9 0 a 1 2 6 3 4 5c h n 0 29 j 6j 6 2 8 r 1 2a g 2y c 2t e 74 e 6t 5 1
       1 2 3 1 0 1 1 3x 6 2 6 3 0 s 9 14 6 1 3 8 0 9 a 1a f b9 7 1 7 2a l 1 d 3e 5 3 0 1 1 1 6 1
       0 1u 4 1 1 1 4 9n 3 9 1 1 0 1c 6 3 4 459 0 6 e asa 4 1n 6 t4 0 1 1i 7 3 29 0 b 1 f57 1 3mp
       19 2 m f2 4 3 5 8 7 2 6 u 3 44 2 1iz 1i 4 1d 8 0 e 0 m 4 1 e 11s 6 1 g 2 6 1 1 1 4 2s 0 4g
       6 af 0 1p 3 e4 3 rk 6 31 6 gzbp 2n 3k 6n"),
   ("FO", "Format", Ranges.ofText
      "4t 0 11u 5 m 0 5c 0 1d 0 ao 1 28 0 2zv 0 1ks 0 2 1 q 4 1d 4 1 9 17yn 0 6x 2 3b5 0 f 0 6zm
       f qxs 3 43z 7 h406 0"),
   ("LF", "LF", Ranges.ofText "a 0"),
   ("LO", "Lower", Ranges.ofText
      "2p p 1b 0 a 0 4 0 10 n 1 7 1 0 1 0 1 0 1 0 1 0 1 0 1 0 1 0 1 0 1 0 1 0 1 0 1 0 1 0 1 0 1 0
       1 0 1 0 1 0 1 0 1 0 1 0 1 0 1 0 1 0 1 0 1 0 1 1 1 0 1 0 1 0 1 0 1 0 1 0 1 0 1 1 1 0 1 0 1
       0 1 0 1 0 1 0 1 0 1 0 1 0 1 0 1 0 1 0 1 0 1 0 1 0 1 0 1 0 1 0 1 0 1 0 1 0 1 0 1 0 2 0 1 0
       1 2 2 0 1 0 2 0 3 1 4 0 2 0 3 2 2 0 2 0 1 0 1 0 2 0 1 1 1 0 2 0 3 0 1 0 2 1 2 2 6 0 2 0 2
       0 1 0 1 0 1 0 1 0 1 0 1 0 1 0 1 1 1 0 1 0 1 0 1 0 1 0 1 0 1 0 1 0 1 1 2 0 1 0 3 0 1 0 1 0
       1 0 1 0 1 0 1 0 1 0 1 0 1 0 1 0 1 0 1 0 1 0 1 0 1 0 1 0 1 0 1 0 1 0 1 0 1 0 1 0 1 0 1 0 1
       0 1 0 1 0 1 0 1 6 2 0 2 1 1 0 4 0 1 0 1 0 1 0 1 1w 1 z 7 1 u 4 3w 0 1 0 3 0 2 3 i 0 r y 1
       1 3 2 1 0 1 0 1 0 1 0 1 0 1 0 1 0 1 0 1 0 1 0 1 0 1 4 1 0 2 0 2 1 1f 1b 1 0 1 0 1 0 1 0 1
       0 1 0 1 0 1 0 1 0 1 0 1 0 1 0 1 0 1 0 1 0 1 0 1 0 9 0 1 0 1 0 1 0 1 0 1 0 1 0 1 0 1 0 1 0
       1 0 1 0 1 0 1 0 1 0 1 0 1 0 1 0 1 0 1 0 1 0 1 0 1 0 1 0 1 0 1 0 1 0 2 0 1 0 1 0 1 0 1 0 1
       0 1 1 1 0 1 0 1 0 1 0 1 0 1 0 1 0 1 0 1 0 1 0 1 0 1 0 1 0 1 0 1 0 1 0 1 0 1 0 1 0 1 0 1 0
       1 0 1 0 1 0 1 0 1 0 1 0 1 0 1 0 1 0 1 0 1 0 1 0 1 0 1 0 1 0 1 0 1 0 1 0 1 0 1 0 1 0 1 0 1
       0 1 0 1 0 1 0 1 0 1c 14 29f 0 l7 5 1oi 8 3b 5b 1t 0 1 0 1 0 1 0 1 0 1 0 1 0 1 0 1 0 1 0 1
       0 1 0 1 0 1 0 1 0 1 0 1 0 1 0 1 0 1 0 1 0 1 0 1 0 1 0 1 0 1 0 1 0 1 0 1 0 1 0 1 0 1 0 1 0
       1 0 1 0 1 0 1 0 1 0 1 0 1 0 1 0 1 0 1 0 1 0 1 0 1 0 1 0 1 0 1 0 1 0 1 0 1 0 1 0 1 0 1 0 1
       0 1 0 1 0 1 0 1 0 1 0 1 0 1 0 1 0 1 0 1 0 1 0 1 0 1 0 1 0 1 0 1 0 1 0 1 0 1 8 1 0 1 0 1 0
       1 0 1 0 1 0 1 0 1 0 1 0 1 0 1 0 1 0 1 0 1 0 1 0 1 0 1 0 1 0 1 0 1 0 1 0 1 0 1 0 1 0 1 0 1
       0 1 0 1 0 1 0 1 0 1 0 1 0 1 0 1 0 1 0 1 0 1 0 1 0 1 0 1 0 1 0 1 0 1 0 1 0 1 0 1 0 1 0 1 0
       1 8 8 5 a 7 8 7 8 5 a 7 8 7 8 d 2 7 8 7 8 7 8 4 1 1 6 0 3 2 1 1 8 3 2 1 8 7 a 2 1 1 3d 0 d
       0 g c 31 0 3 1 3 0 r 0 4 0 4 0 2 1 8 3 4 0 x f 4 0 nf p 1fq 1b 1 0 3 1 1 0 1 0 1 0 4 0 1 1
       1 7 3 0 1 0 1 0 1 0 1 0 1 0 1 0 1 0 1 0 1 0 1 0 1 0 1 0 1 0 1 0 1 0 1 0 1 0 1 0 1 0 1 0 1
       0 1 0 1 0 1 0 1 0 1 0 1 0 1 0 1 0 1 0 1 0 1 0 1 0 1 0 1 0 1 0 1 0 1 0 1 0 1 0 1 0 1 0 1 0
       1 0 1 0 1 0 1 0 1 0 1 1 7 0 1 0 4 0 c 11 1 0 5 0 nwz 0 1 0 1 0 1 0 1 0 1 0 1 0 1 0 1 0 1 0
       1 0 1 0 1 0 1 0 1 0 1 0 1 0 1 0 1 0 1 0 1 0 1 0 1 0 j 0 1 0 1 0 1 0 1 0 1 0 1 0 1 0 1 0 1
       0 1 0 1 0 1 0 1 2 3p 0 1 0 1 0 1 0 1 0 1 0 1 2 1 0 1 0 1 0 1 0 1 0 1 0 1 0 1 0 1 0 1 0 1 0
       1 0 1 0 1 0 1 0 1 0 1 0 1 0 1 0 1 0 1 0 1 0 1 0 1 0 1 0 1 0 1 0 1 0 1 0 1 0 1 9 1 0 1 0 2
       0 1 0 1 0 1 0 1 0 4 0 1 0 2 0 1 2 1 0 1 0 1 0 1 0 1 0 1 0 1 0 1 0 1 0 1 0 5 0 5 0 1 0 1 0
       1 0 1 0 1 0 1 0 1 0 4 0 1 0 6 0 1 0 1 0 1 0 1 0 o 2 1 0 1 2 mt 16 1 d 6 27 fnk 6 c 4 tl p
       y5 13 3s z 4b a 1 e 1 6 1 1 cj 0 2 2 1 15 1 8 zp 1e 2bx v gw0 v k2i p q 6 1 h q p q 3 1 0
       1 6 1 a q p q p q p q p q p q p q p q p q r s o 1 5 q o 1 5 q o 1 5 q o 1 5 q o 1 5 1 0
       1f8 9 1 j 6 5 79 1p 1pw x"),
   ("NU", "Numeric", Ranges.ofText
      "1c 9 17q 9 1 1 3n 9 5i 9 bg 9 3a 9 3a 9 3a 9 3a 9 3a 9 3a 9 3a 9 3a 9 3a 9 2o 9 3a 9 1y 9
       7q 9 1y 9 1fq 9 12 9 8c 9 3k 9 4m 9 6 9 52 9 2e 9 3q 9 6 9 r7q 9 iu 9 12 9 5i 9 m 9 2e 9
       ba 9 geu 9 13a 9 1om 9 mk 9 3k 9 1o 9 40 9 7q 9 9i 9 3a 9 ae 9 2u 9 2u 9 bq 9 2u 9 l2 9 6u
       9 1y 9 bq 9 eti 9 2e 9 3q 9 lf8 1d 1ts 9 bq 9 dy 9 uu 9 3o6 9"),
   ("LE", "OLetter", Ranges.ofText
      "cb 0 4 3 5s 0 10 6 6 b q 0 1 0 3p 0 dg 0 3a q 4 4 18 16 z 1 1 2q 1 0 f 1 7 1 a 2 2 0 g 0 1
       t t 2g b 0 o w 9 1 4 0 5 l 4 0 9 0 3 0 n o 7 a 5 n 1 5 h 15 1m 1h 3 0 i 0 7 9 f f 4 7 2 1
       2 l 1 6 1 0 3 3 3 0 g 0 d 1 1 2 e 1 a 0 8 5 4 1 2 l 1 6 1 1 1 1 1 1 v 3 1 0 j 2 g 8 1 2 1
       l 1 6 1 1 1 4 3 0 i 0 f 1 n 0 b 7 2 1 2 l 1 6 1 1 1 4 3 0 u 1 1 2 f 0 h 0 1 5 3 2 1 3 3 1
       1 0 1 1 3 1 3 2 3 b m 0 1g 7 1 2 1 m 1 f 3 0 q 2 2 0 2 1 u 0 4 7 1 2 1 m 1 9 1 4 3 0 v 1 1
       1 f 1 h 8 1 2 1 14 2 0 g 0 5 2 8 2 o 5 5 h 3 n 1 8 1 0 2 6 1m 1b 1 1 c 6 1m 1 1 0 1 4 1 n
       1 0 1 9 1 1 9 0 2 4 1 0 l 3 w 0 1r 7 1 z r 4 37 16 k 0 g 5 4 3 3 0 3 1 7 2 4 c c 0 1t 16 2
       97 1 3 2 6 1 0 1 3 2 14 1 3 2 w 1 3 2 6 1 0 1 3 2 e 1 1k 1 3 2 1u 11 f 35 h7 2 g 1 p 5 22
       3 a 7 h d i e h e c 1 2 f 1f z 0 4 0 1v 2g 7 4 2 x 1 0 5 1x a u 1d t 2 4 b 17 4 p 1i m 9
       1g 2a 0 2l 1a h 7 1i t d 1 a 17 q z 15 2 a z i 16 2 2 15 3 1 5 1 1 3 0 u2 3 1z 2 2 3 2av
       1j 7 0 g m 9 6 1 6 1 6 1 6 1 6 1 6 1 6 1 6 28 0 d1 2 p 8 7 4 2 4 4 2d 6 2 1 2h 1 3 5 16 1
       2l h v 1c f e8 533 1s h3g 1v 19 2 7g 3 f a 1 1u 0 g 0 w 27 13 8 2w 0 6 0 2v 0 3 6 1 2 1 3
       1 m t 1f e 1d 1q 5 3 0 1 1 b r a m p s 7 1a s 0 g 4 1 9 a 4 1 14 n 2 1 7 k m 3 0 3 1d 1 0
       3 1 2 4 2 0 1 0 o 2 2 a 7 2 c 5 2 5 2 5 9 6 1 6 41 y t 8mb c m 4 1c 6is a5 2 2x 1v 0 1 9 1
       c 1 4 1 0 1 1 1 1 1 2z x a2 i 1r 2 1h 14 b 38 4 1 3q 2x 1j 2 u 3 5 2 5 2 5 2 2 z b 1 p 1 i
       1 1 1 e 2 d y 3e 1x 1g 7f s 3 1c 1b v d t 5 11 a t 2 z 4 7 1 4 3e 25 2q 13 8 1f 4c 8m 9 l
       a 7 p 1 3h 5 2 0 1 17 1 1 3 0 2 m a m 9 u 1t i 1 1 a l a p 1y 1j 6 1 1s 0 f 3 1 2 1 s 16 s
       3 s z 7 1 r r 1h a l a i d h 32 20 53 z 9o 15 6 1 26 s a 0 8 l 16 h 1a k r m c 1g 1l 1 2 0
       d 18 w o q z t 0 2 0 8 y 3 0 c 1b e 3 l 0 1 0 z h 1 o j 1 1r 6 1 0 1 3 1 e 1 9 7 1a 12 7 2
       1 2 l 1 6 1 1 1 4 3 0 i 0 c 4 4e 1g i 3 k 2 u 1b k 1 1 0 54 1a 15 3 10 1b k 0 1n 16 d 0 1z
       q 11 6 55 17 5v 7 2 0 2 7 1 1 1 n f 0 1 0 2m 7 2 12 g 0 1 0 s 0 a 13 7 0 l 0 b 19 j 0 i 20
       7b 8 1 10 h 0 1d t 34 6 1 1 1 11 l 0 p 5 1 1 1 v e 0 93 i f 0 1 c 1 x 3g 0 27 pl 2u 32 h
       5f 218 2o f tr h 5 33t g6 6nt fs 7 u h 26 h t i 1b g 3 v k 5 i og 22 5 0 1u c 1s 1 1 0 s
       4qf 8 yd 16 8 6w7 3 1 6 1 1 1 82 f 0 t 2 2 0 e 3 8 az 1s4 2y 5 c 3 8 7 9 6sw 0 dx 18 a 6 g
       0 8x t i 17 dg r l0 6 1 3 1 1 1 e 1 5g 3q 0 xg 3 1 q 1 1 1 0 2 0 1 9 1 3 1 0 1 0 6 0 4 0 1
       0 1 0 1 2 1 1 1 0 2 0 1 0 1 0 1 0 1 0 1 1 1 0 2 3 1 6 1 3 1 3 1 0 1 9 1 g 5 2 1 4 1 g 3es
       wyn w 37d 6 65 2 4g1 e 5rk 2e7 f1 15u 3t6 5 38f"),
   ("SC", "SContinue", Ranges.ofText
      "18 1 c 0 10i 0 4u 1 dm 0 361 0 5 0 1l6 1 358 0 14pa 1 1 0 t 1 t 1 3 0 2 0 a 0 4o 1 c 0 21
       0"),
   ("ST", "STerm", Ranges.ofText
      "x 0 t 0 11l 0 43 2 50 0 17 2 6u 0 1p 0 1 0 3 1 85 1 1d0 1 ly 0 4 1 lh 0 5i 1 5o 0 5 0 8q 1
       9u 3 4u 1 2 1 t 1 58 1 1t 1 qk 1 9 2 2qs 0 d 0 m 1 bx 0 n3w 0 7i 1 6b 0 3 0 am 1 2e 1 2n 0
       48 1 43 2 40 1 6x 0 ga2 1 4p 0 t 0 1t 0 25w 1 zh 4 18 3 59 1 39 3 3j 2 3l 1 6 0 g 1 2g 1 1
       1 30 0 bl 1 ad 1 5 e 2x 1 6x 2 ed 0 1 0 6z 1 2f 1 bo 1 j8 1 22 1 euh 1 3p 0 1t 1 b 0 nn 0
       feu 0 5wo 0"),
   ("SE", "Sep", Ranges.ofText "3p 0 68y 1"),
   ("SP", "Sp", Ranges.ofText "9 0 1 1 j 0 3j 0 4bj 0 1vj a 10 0 1b 0 334 0"),
   ("UP", "Upper", Ranges.ofText
      "1t p 2t m 1 6 x 0 1 0 1 0 1 0 1 0 1 0 1 0 1 0 1 0 1 0 1 0 1 0 1 0 1 0 1 0 1 0 1 0 1 0 1 0
       1 0 1 0 1 0 1 0 1 0 1 0 1 0 1 0 1 0 2 0 1 0 1 0 1 0 1 0 1 0 1 0 1 0 2 0 1 0 1 0 1 0 1 0 1
       0 1 0 1 0 1 0 1 0 1 0 1 0 1 0 1 0 1 0 1 0 1 0 1 0 1 0 1 0 1 0 1 0 1 0 1 1 1 0 1 0 3 1 1 0
       1 1 1 2 2 3 1 1 1 2 3 1 1 1 1 0 1 0 1 1 1 0 2 0 1 1 1 2 1 0 1 1 3 0 7 1 1 1 1 1 1 0 1 0 1
       0 1 0 1 0 1 0 1 0 1 0 2 0 1 0 1 0 1 0 1 0 1 0 1 0 1 0 1 0 2 1 1 0 1 2 1 0 1 0 1 0 1 0 1 0
       1 0 1 0 1 0 1 0 1 0 1 0 1 0 1 0 1 0 1 0 1 0 1 0 1 0 1 0 1 0 1 0 1 0 1 0 1 0 1 0 1 0 1 0 1
       0 1 0 7 1 1 1 2 0 1 3 1 0 1 0 1 0 1 0 81 0 1 0 3 0 8 0 6 0 1 2 1 0 1 1 1 g 1 8 z 0 2 2 3 0
       1 0 1 0 1 0 1 0 1 0 1 0 1 0 1 0 1 0 1 0 1 0 5 0 2 0 1 1 2 1e 1c 0 1 0 1 0 1 0 1 0 1 0 1 0
       1 0 1 0 1 0 1 0 1 0 1 0 1 0 1 0 1 0 1 0 9 0 1 0 1 0 1 0 1 0 1 0 1 0 1 0 1 0 1 0 1 0 1 0 1
       0 1 0 1 0 1 0 1 0 1 0 1 0 1 0 1 0 1 0 1 0 1 0 1 0 1 0 1 0 1 1 1 0 1 0 1 0 1 0 1 0 1 0 2 0
       1 0 1 0 1 0 1 0 1 0 1 0 1 0 1 0 1 0 1 0 1 0 1 0 1 0 1 0 1 0 1 0 1 0 1 0 1 0 1 0 1 0 1 0 1
       0 1 0 1 0 1 0 1 0 1 0 1 0 1 0 1 0 1 0 1 0 1 0 1 0 1 0 1 0 1 0 1 0 1 0 1 0 1 0 1 0 1 0 1 0
       1 0 1 0 2 11 289 11 1 0 5 0 k2 2d 1ze 0 1 0 1 0 1 0 1 0 1 0 1 0 1 0 1 0 1 0 1 0 1 0 1 0 1
       0 1 0 1 0 1 0 1 0 1 0 1 0 1 0 1 0 1 0 1 0 1 0 1 0 1 0 1 0 1 0 1 0 1 0 1 0 1 0 1 0 1 0 1 0
       1 0 1 0 1 0 1 0 1 0 1 0 1 0 1 0 1 0 1 0 1 0 1 0 1 0 1 0 1 0 1 0 1 0 1 0 1 0 1 0 1 0 1 0 1
       0 1 0 1 0 1 0 1 0 1 0 1 0 1 0 1 0 1 0 1 0 1 0 1 0 1 0 1 0 1 0 1 0 9 0 1 0 1 0 1 0 1 0 1 0
       1 0 1 0 1 0 1 0 1 0 1 0 1 0 1 0 1 0 1 0 1 0 1 0 1 0 1 0 1 0 1 0 1 0 1 0 1 0 1 0 1 0 1 0 1
       0 1 0 1 0 1 0 1 0 1 0 1 0 1 0 1 0 1 0 1 0 1 0 1 0 1 0 1 0 1 0 1 0 1 0 1 0 1 0 1 0 9 7 8 5
       a 7 8 7 8 5 b 0 1 0 1 0 1 0 8 7 o 7 8 7 8 7 8 4 b 4 b 3 c 4 b 4 79 0 4 0 3 2 2 2 2 0 3 4 6
       0 1 0 1 0 1 3 2 3 a 1 5 0 q f j 0 mq p 1f4 1b 1c 0 1 2 2 0 1 0 1 0 1 3 1 0 2 0 8 2 1 0 1 0
       1 0 1 0 1 0 1 0 1 0 1 0 1 0 1 0 1 0 1 0 1 0 1 0 1 0 1 0 1 0 1 0 1 0 1 0 1 0 1 0 1 0 1 0 1
       0 1 0 1 0 1 0 1 0 1 0 1 0 1 0 1 0 1 0 1 0 1 0 1 0 1 0 1 0 1 0 1 0 1 0 1 0 1 0 1 0 1 0 1 0
       1 0 1 0 8 0 1 0 4 0 nyl 0 1 0 1 0 1 0 1 0 1 0 1 0 1 0 1 0 1 0 1 0 1 0 1 0 1 0 1 0 1 0 1 0
       1 0 1 0 1 0 1 0 1 0 1 0 j 0 1 0 1 0 1 0 1 0 1 0 1 0 1 0 1 0 1 0 1 0 1 0 1 0 1 0 3r 0 1 0 1
       0 1 0 1 0 1 0 1 0 3 0 1 0 1 0 1 0 1 0 1 0 1 0 1 0 1 0 1 0 1 0 1 0 1 0 1 0 1 0 1 0 1 0 1 0
       1 0 1 0 1 0 1 0 1 0 1 0 1 0 1 0 1 0 1 0 1 0 1 0 1 0 a 0 1 0 1 1 1 0 1 0 1 0 1 0 4 0 1 0 2
       0 1 0 3 0 1 0 1 0 1 0 1 0 1 0 1 0 1 0 1 0 1 0 1 4 1 4 1 0 1 0 1 0 1 0 1 0 1 0 1 0 1 3 1 0
       6 0 5 0 1 0 s 0 h7v p xx 13 3s z 4c a 1 e 1 6 1 1 1d6 1e 2ct v gw0 v k2o p q p q p q 0 1 1
       2 0 2 1 2 3 1 7 q p q 1 1 3 2 7 1 6 r 1 1 3 1 4 1 0 3 6 r p q p q p q p q p q p u o x o x
       o x o x o x 0 3ed x 1la p 6 p 6 p")]

end Break

end Unicode

end RunReport
