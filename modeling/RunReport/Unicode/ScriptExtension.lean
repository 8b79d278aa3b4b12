import RunReport.Unicode.Ranges

/-!
# Script Extensions

The scripts that use a character, where they are others than the script of the character, as data of
the Unicode character database, version 15.

## Main definitions

* `borrowed`: What scripts use beyond their own characters.
* `limited`: What not all scripts use.
-/

namespace RunReport

namespace Unicode

namespace ScriptExtension

/-- The characters that a script uses though they do not belong to it, by its short name. -/
def borrowed : List (String × Ranges) :=
  [("Adlm", Ranges.ofText "17j 0 w 0"),
   ("Arab", Ranges.ofText "170 0 e 0 3 0 w 0 a a q 0 1cr1 1 140 r"),
   ("Beng", Ranges.ofText "1u9 1 h 1 3u2 0 1 0 2 1 1 0 8 0 8 0 2 0 4 0 2 2 rnd 0"),
   ("Bopo", Ranges.ofText "9hd 2 4 9 1 c a 3 2 0 6 0 5f 0 14jt 1 7u 4"),
   ("Bugi", Ranges.ofText "xjj 0"),
   ("Buhd", Ranges.ofText "4l1 1"),
   ("Cakm", Ranges.ofText "1ye 9 18w 9"),
   ("Copt", Ranges.ofText "1f4w r"),
   ("Cprt", Ranges.ofText "1erk 2 4 18 3 8"),
   ("Cpmn", Ranges.ofText "1erk 1"),
   ("Cyrl", Ranges.ofText "w5 1 50x 0 37u 0"),
   ("Deva", Ranges.ofText "1u9 1 h 1 3u2 12 1 1 s6 0 qpr 9"),
   ("Dogr", Ranges.ofText "1us b vcw 9"),
   ("Dupl", Ranges.ofText "2fts 3"),
   ("Geor", Ranges.ofText "3cr 0"),
   ("Glag", Ranges.ofText "w4 0 2 0 88r 0 nqj 0"),
   ("Gran", Ranges.ofText "1u9 1 h 1 hs d 3bw 0 1 1 u 2 3 1 s6 0 1buy 0 2hg 1 1 0"),
   ("Grek", Ranges.ofText "n6 0 2 0 58a 1"),
   ("Gujr", Ranges.ofText "1u9 1 h 1 vd6 9"),
   ("Gong", Ranges.ofText "1us 1"),
   ("Guru", Ranges.ofText "1u9 1 h 1 vd6 9"),
   ("Hani", Ranges.ofText
      "9hd 2 2 0 1 9 1 c a 3 2 0 6 0 4 3 57 0 44 f w z 1o 13 1k 1c f b 1f 0 2g o a 4 2o u mpt 7
       h8d 1 7u 4 15ve h 63i 1"),
   ("Hang", Ranges.ofText "9hd 2 4 9 1 c g 0 6 0 5f 0 14jt 1 7u 4"),
   ("Rohg", Ranges.ofText "170 0 e 0 3 0 w 0 43 0"),
   ("Hano", Ranges.ofText "4l1 1"),
   ("Hira", Ranges.ofText "9hd 2 4 9 1 c g 5 1 0 4 1 2j 3 3 0 2i 1 14js 1 7u 4 a 0 19 1"),
   ("Java", Ranges.ofText "xjj 0"),
   ("Kthi", Ranges.ofText "1uu 9 vcw 9"),
   ("Knda", Ranges.ofText "1u9 1 h 1 3u2 0 1 0 7 0 n 0 1 0 ri3 5"),
   ("Kana", Ranges.ofText "9hd 2 4 9 1 c g 5 1 0 4 1 2j 3 3 0 2i 1 14js 1 7u 4 a 0 19 1"),
   ("Kali", Ranges.ofText "xf2 0"),
   ("Khoj", Ranges.ofText "25i 9 v28 9"),
   ("Sind", Ranges.ofText "1us 1 vd6 9"),
   ("Latn", Ranges.ofText "o3 c 7p 1 y2 1 1ig 0 303 0 5c 0 qhb 7 fa 0"),
   ("Limb", Ranges.ofText "1ut 0"),
   ("Lina", Ranges.ofText "1err 18"),
   ("Linb", Ranges.ofText "1erk 2 4 18 3 8"),
   ("Mahj", Ranges.ofText "1us b vcw 9"),
   ("Mlym", Ranges.ofText "1u9 1 h 1 3uc 0 rit 2"),
   ("Mand", Ranges.ofText "18g 0"),
   ("Mani", Ranges.ofText "18g 0"),
   ("Gonm", Ranges.ofText "1us 1"),
   ("Modi", Ranges.ofText "x80 9"),
   ("Mong", Ranges.ofText "4qq 1 1 0 1m1 0"),
   ("Mult", Ranges.ofText "21y 9"),
   ("Mymr", Ranges.ofText "xf2 0"),
   ("Nand", Ranges.ofText "1us 1 ow 9 35l 0 8 0 7 0 rhx 5"),
   ("Nkoo", Ranges.ofText "170 0 e 0 3 0 1cta 1"),
   ("Perm", Ranges.ofText "w3 0"),
   ("Ougr", Ranges.ofText "18g 0 1fht 0"),
   ("Orya", Ranges.ofText "1u9 1 h 1 3uc 0 n 0"),
   ("Phag", Ranges.ofText "4qq 1 1 0"),
   ("Phlp", Ranges.ofText "18g 0"),
   ("Shrd", Ranges.ofText "1u9 0 3ut 0 1 0 2 1 2 0"),
   ("Sinh", Ranges.ofText "1us 1"),
   ("Sogd", Ranges.ofText "18g 0"),
   ("Sylo", Ranges.ofText "1us 1 3k 9"),
   ("Syrc", Ranges.ofText "170 0 e 1 2 0 w 0 a a q 0 4nb 0 1 0"),
   ("Tglg", Ranges.ofText "4l1 1"),
   ("Tagb", Ranges.ofText "4l1 1"),
   ("Tale", Ranges.ofText "37k 9"),
   ("Takr", Ranges.ofText "1us 1 vd6 9"),
   ("Taml", Ranges.ofText "1u9 1 h 1 3uc 0 ro8 0 ky5 0 1 0 1j 1"),
   ("Telu", Ranges.ofText "1u9 1 h 1 3uc 0 n 0"),
   ("Thaa", Ranges.ofText "170 0 e 1 2 0 1s 9 1cw8 0 a 0"),
   ("Tirh", Ranges.ofText "1u9 1 h 1 3v0 0 ri5 9"),
   ("Yezi", Ranges.ofText "170 0 e 0 3 0 1s 9"),
   ("Yiii", Ranges.ofText "9hd 1 5 9 2 7 67 0 14rp 4")]

/-- The characters without a script of their own that only some scripts use. -/
def limited : List (String × Ranges) :=
  [("Zyyy", Ranges.ofText
      "170 0 e 0 3 0 w 0 mb 1 1hx 0 189 1 5n 1 1 0 y5 0 d 0 7 3 1 5 1 2 2 0 ms 0 2s3 0 cd 2 2 0 1
       9 1 c g 5 1 0 4 3 2j 1 3 0 2i 1 43 f w z 1o 13 1k 1c f b 1f 0 2g o a 4 2o u mpt 7 88 9 6s
       0 4g 0 gha 1 79 1 7u 4 a 0 19 1 9s 2 4 18 3 8 bl q 10o4 3 4ho h 63i 1"),
   ("Zinh", Ranges.ofText
      "n6 0 2 0 t c 7p 1 ck a q 0 kg 1 3ul 2 1 c 1 6 4 0 6 0 3 1 5i 1 1i 0 1 0 l1 0 309 3 2z 1
       15j9 0 38a 0")]

end ScriptExtension

end Unicode

end RunReport
