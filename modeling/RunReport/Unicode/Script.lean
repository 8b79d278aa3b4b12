import RunReport.Unicode.Ranges

/-!
# Scripts

The script of every character, as data of the Unicode character database, version 15.

## Main definitions

* `table`: The scripts with their short and long names and their ranges.
-/

namespace RunReport

namespace Unicode

namespace Script

/-- The ranges of the script Adlam. -/
def adlam : Ranges := Ranges.ofText
  "2olc 23 4 9 4 1"

/-- The ranges of the script Ahom. -/
def ahom : Ranges := Ranges.ofText
  "1j40 q 2 e 4 m"

/-- The ranges of the script Anatolian Hieroglyphs. -/
def anatolianHieroglyphs : Ranges := Ranges.ofText
  "1s00 g6"

/-- The ranges of the script Arabic. -/
def arabic : Ranges := Ranges.ofText
  "16o 4 1 5 1 d 1 2 1 v 1 9 b p 1 2z 1 x 28 1b 6o u 1 1 6 21 1 s 1bv4 36 g a2 2 27 2 1h 7 0 w
    f 34 4 1 3q 31f u 3i 2 181s 3 1 q 1 1 1 0 2 0 1 9 1 3 1 0 1 0 6 0 4 0 1 0 1 0 1 2 1 1 1 0 2
    0 1 0 1 0 1 0 1 0 1 1 1 0 2 3 1 6 1 3 1 3 1 0 1 9 1 g 5 2 1 4 1 g 1g 1"

/-- The ranges of the script Armenian. -/
def armenian : Ranges := Ranges.ofText
  "10x 11 2 1d 2 2 1chv 4"

/-- The ranges of the script Avestan. -/
def avestan : Ranges := Ranges.ofText
  "1gqo 1h 3 6"

/-- The ranges of the script Balinese. -/
def balinese : Ranges := Ranges.ofText
  "5c0 24 3 1a"

/-- The ranges of the script Bamum. -/
def bamum : Ranges := Ranges.ofText
  "www 2f 124o fs"

/-- The ranges of the script Bassa Vah. -/
def bassaVah : Ranges := Ranges.ofText
  "1zo0 t 2 5"

/-- The ranges of the script Batak. -/
def batak : Ranges := Ranges.ofText
  "5hc 1f 8 3"

/-- The ranges of the script Bengali. -/
def bengali : Ranges := Ranges.ofText
  "1vk 3 1 7 2 1 2 l 1 6 1 0 3 3 2 8 2 1 2 3 8 0 4 1 1 4 2 o"

/-- The ranges of the script Bhaiksuki. -/
def bhaiksuki : Ranges := Ranges.ofText
  "1k3k 8 1 18 1 d a s"

/-- The ranges of the script Bopomofo. -/
def bopomofo : Ranges := Ranges.ofText
  "kq 1 93t 16 34 v"

/-- The ranges of the script Brahmi. -/
def brahmi : Ranges := Ranges.ofText
  "1hq8 25 4 z 9 0"

/-- The ranges of the script Braille. -/
def braille : Ranges := Ranges.ofText
  "7wg 73"

/-- The ranges of the script Buginese. -/
def buginese : Ranges := Ranges.ofText
  "54w r 2 1"

/-- The ranges of the script Buhid. -/
def buhid : Ranges := Ranges.ofText
  "4lc j"

/-- The ranges of the script Canadian Aboriginal. -/
def canadianAboriginal : Ranges := Ranges.ofText
  "3y8 hr fk 1x 1ewq f"

/-- The ranges of the script Carian. -/
def carian : Ranges := Ranges.ofText
  "1f34 1c"

/-- The ranges of the script Caucasian Albanian. -/
def caucasianAlbanian : Ranges := Ranges.ofText
  "1flc 1f b 0"

/-- The ranges of the script Chakma. -/
def chakma : Ranges := Ranges.ofText
  "1hxc 1g 1 h"

/-- The ranges of the script Cham. -/
def cham : Ranges := Ranges.ofText
  "xkw 1i 9 d 2 9 2 3"

/-- The ranges of the script Cherokee. -/
def cherokee : Ranges := Ranges.ofText
  "3vk 2d 2 5 twy 27"

/-- The ranges of the script Chorasmian. -/
def chorasmian : Ranges := Ranges.ofText
  "1ho0 r"

/-- The ranges of the script Common. -/
def common : Ranges := Ranges.ofText
  "0 1s q 5 q 1a 1 e 1 4 n 0 v 0 ch 12 5 4 2 j 38 0 9 0 6 0 1 0 hp 0 6 0 e 0 3 0 w 0 4c 0 ec 0
    3l 1 yh 0 b9 3 82 0 167 2 1z 1 5n 1 1 0 y5 0 d 0 7 3 1 5 1 2 2 0 lh b 2 2e 1 a 3 a 1 e h w
    1r 11 1 2 2 5 1 q 1 g 15 2 4 ie p a l pr 74 hf 2 v 1 2w e8 2l b6 b 4 4 1 0 1 o f 7 4 3 2j 1
    3 0 2i 1 43 f w z 1o 1r v 28 1b 0 2g 4n 534 1r hkw x 2u 2 4l 9 6s 0 4g 0 az 0 e 1 g5u 1 5s
    9 m y 1 i 1 3 43 0 1 v q 5 q a a 0 19 1 1s 6 1 6 a 4 76 2 4 18 3 8 28 c 1f 18 6c q 10o4 3
    3os 37 1o 6t a 12 2 1p 3 g 8 1 7 t 4 1o 5x j c j c 2e 9 o 3r 2c 1 1y 1 1 2 0 2 1 2 3 1 b 1
    0 1 6 1 1s 1 3 2 7 1 6 1 r 1 3 1 4 1 0 3 6 1 9f 2 83 2 1d 41d 1v 24 1o jm 17 4 2r c e 2 e 1
    e 1 10 a 4t 1k p 1 1 d 17 4 8 7 1 e 5 4a rb 4 g 3 c 3 3a 4 2m 6 b 4 0 f b 4 1j 8 9 6 13 8 t
    2 1 26 9f c d 2 c 3 8 7 19 1 6 8 d 4 8 7 8 7 42 1 1i 11 9 gvlz 0 u 2n"

/-- The ranges of the script Coptic. -/
def coptic : Ranges := Ranges.ofText
  "rm d 80g 37 5 6"

/-- The ranges of the script Cuneiform. -/
def cuneiform : Ranges := Ranges.ofText
  "1kw0 pl 2u 32 1 4 b 5f"

/-- The ranges of the script Cypriot. -/
def cypriot : Ranges := Ranges.ofText
  "1g5c 5 2 0 1 17 1 1 3 0 2 0"

/-- The ranges of the script Cypro Minoan. -/
def cyproMinoan : Ranges := Ranges.ofText
  "1nyo 2q"

/-- The ranges of the script Cyrillic. -/
def cyrillic : Ranges := Ranges.ofText
  "sg 3o 2 4o 4ls 8 4i 0 24 0 38n v nr4 2n ham 1 18n4 1p x 0"

/-- The ranges of the script Deseret. -/
def deseret : Ranges := Ranges.ofText
  "1fcw 27"

/-- The ranges of the script Devanagari. -/
def devanagari : Ranges := Ranges.ofText
  "1s0 28 4 e 2 p vhc v mio 9"

/-- The ranges of the script Dives Akuru. -/
def divesAkuru : Ranges := Ranges.ofText
  "1ji8 6 2 0 2 7 1 1 1 t 1 1 2 b 9 9"

/-- The ranges of the script Dogra. -/
def dogra : Ranges := Ranges.ofText
  "1jb4 1n"

/-- The ranges of the script Duployan. -/
def duployan : Ranges := Ranges.ofText
  "2fpc 2y 5 c 3 8 7 9 2 3"

/-- The ranges of the script Egyptian Hieroglyphs. -/
def egyptianHieroglyphs : Ranges := Ranges.ofText
  "1o1s ut"

/-- The ranges of the script Elbasan. -/
def elbasan : Ranges := Ranges.ofText
  "1fk0 13"

/-- The ranges of the script Elymaic. -/
def elymaic : Ranges := Ranges.ofText
  "1hpc m"

/-- The ranges of the script Ethiopic. -/
def ethiopic : Ranges := Ranges.ofText
  "3k0 20 1 3 2 6 1 0 1 3 2 14 1 3 2 w 1 3 2 6 1 0 1 3 2 e 1 1k 1 3 2 1u 2 v 3 p 546 m 9 6 1 6
    1 6 1 6 1 6 1 6 1 6 1 6 opu 5 2 5 2 5 9 6 1 6 1qk1 6 1 3 1 1 1 e"

/-- The ranges of the script Georgian. -/
def georgian : Ranges := Ranges.ofText
  "3a8 11 1 0 5 0 2 16 1 3 2a8 16 2 2 37k 11 1 0 5 0"

/-- The ranges of the script Glagolitic. -/
def glagolitic : Ranges := Ranges.ofText
  "8ow 2n 2e1s 6 1 g 2 6 1 1 1 4"

/-- The ranges of the script Gothic. -/
def gothic : Ranges := Ranges.ofText
  "1f74 q"

/-- The ranges of the script Grantha. -/
def grantha : Ranges := Ranges.ofText
  "1ibk 3 1 7 2 1 2 l 1 6 1 1 1 4 2 8 2 1 2 2 2 0 6 0 5 6 2 6 3 4"

/-- The ranges of the script Greek. -/
def greek : Ranges := Ranges.ofText
  "og 3 1 2 2 3 1 0 4 0 1 0 1 2 1 0 1 j 1 1q e f 4yu 4 1e 4 4 4 2c 0 8w l 2 5 2 11 2 5 2 7 1 0
    1 0 1 0 1 u 2 1g 1 e 1 d 2 5 1 i 2 2 1 8 87 0 rb2 0 gyi 26 h 0 155r 1x"

/-- The ranges of the script Gujarati. -/
def gujarati : Ranges := Ranges.ofText
  "22p 2 1 8 1 2 1 l 1 6 1 1 1 4 2 9 1 2 1 2 2 0 f 3 2 b 7 6"

/-- The ranges of the script Gunjala Gondi. -/
def gunjalaGondi : Ranges := Ranges.ofText
  "1kdc 5 1 1 1 10 1 1 1 5 7 9"

/-- The ranges of the script Gurmukhi. -/
def gurmukhi : Ranges := Ranges.ofText
  "1z5 2 1 5 4 1 2 l 1 6 1 1 1 1 1 1 2 0 1 4 4 1 2 2 3 0 7 3 1 0 7 g"

/-- The ranges of the script Han. -/
def han : Ranges := Ranges.ofText
  "96o p 1 2g c 5x 1b 0 1 0 p 8 e 3 qs 533 1s g73 hkw a5 2 2x n48 1 c 1 sge wyn w 37d 6 65 2
    4g1 e 5rk 2e7 f1 15u 3t6 5 38f"

/-- The ranges of the script Hangul. -/
def hangul : Ranges := Ranges.ofText
  "3cw 73 5ym 1 75 2l 35 u 1t u nhd s hv 8mb c m 4 1c 7tw u 3 5 2 5 2 5 2 2"

/-- The ranges of the script Hanifi Rohingya. -/
def hanifiRohingya : Ranges := Ranges.ofText
  "1h4w 13 8 9"

/-- The ranges of the script Hanunoo. -/
def hanunoo : Ranges := Ranges.ofText
  "4kg k"

/-- The ranges of the script Hatran. -/
def hatran : Ranges := Ranges.ofText
  "1gbk i 1 1 5 4"

/-- The ranges of the script Hebrew. -/
def hebrew : Ranges := Ranges.ofText
  "13l 1i 8 q 4 5 1cfc p 1 4 1 0 1 1 1 1 1 9"

/-- The ranges of the script Hiragana. -/
def hiragana : Ranges := Ranges.ofText
  "9j5 2d 6 2 23q9 7y i 0 t 2 crx 0"

/-- The ranges of the script Imperial Aramaic. -/
def imperialAramaic : Ranges := Ranges.ofText
  "1g74 l 1 8"

/-- The ranges of the script Inherited. -/
def inherited : Ranges := Ranges.ofText
  "lc 33 7p 1 ck a q 0 kg 3 3ff u e9 2 1 c 1 6 4 0 6 0 3 1 5i 1r ek 1 5e w 309 3 2z 1 14kl f g
    d r3 0 6a 0 38a 0 1138 19 2 m f4 2 h 7 2 6 u 3 h45u 6n"

/-- The ranges of the script Inscriptional Pahlavi. -/
def inscriptionalPahlavi : Ranges := Ranges.ofText
  "1gtc i 5 7"

/-- The ranges of the script Inscriptional Parthian. -/
def inscriptionalParthian : Ranges := Ranges.ofText
  "1gsg l 2 7"

/-- The ranges of the script Javanese. -/
def javanese : Ranges := Ranges.ofText
  "xhc 25 2 9 4 1"

/-- The ranges of the script Kaithi. -/
def kaithi : Ranges := Ranges.ofText
  "1hts 1u a 0"

/-- The ranges of the script Kannada. -/
def kannada : Ranges := Ranges.ofText
  "2gw c 1 2 1 m 1 9 1 4 2 8 1 2 1 3 7 1 6 1 1 3 2 9 1 2"

/-- The ranges of the script Katakana. -/
def katakana : Ranges := Ranges.ofText
  "9lt 2h 2 2 6o f 5s 1a 1 2f 14b2 9 1 18 ytu 3 1 6 1 1 1 0 7z 2 1e 0 e 3"

/-- The ranges of the script Kawi. -/
def kawi : Ranges := Ranges.ofText
  "1kow g 1 14 3 r"

/-- The ranges of the script Kayah Li. -/
def kayahLi : Ranges := Ranges.ofText
  "xds 19 1 0"

/-- The ranges of the script Kharoshthi. -/
def kharoshthi : Ranges := Ranges.ofText
  "1gjk 3 1 1 5 7 1 2 1 s 2 2 4 9 7 8"

/-- The ranges of the script Khitan Small Script. -/
def khitanSmallScript : Ranges := Ranges.ofText
  "20o4 0 5cr d1"

/-- The ranges of the script Khmer. -/
def khmer : Ranges := Ranges.ofText
  "4n4 2l 2 9 6 9 di v"

/-- The ranges of the script Khojki. -/
def khojki : Ranges := Ranges.ofText
  "1i4g h 1 1a"

/-- The ranges of the script Khudawadi. -/
def khudawadi : Ranges := Ranges.ofText
  "1i9c 1m 5 9"

/-- The ranges of the script Lao. -/
def lao : Ranges := Ranges.ofText
  "2v5 1 1 0 1 4 1 n 1 0 1 m 2 4 1 0 1 6 1 9 2 3"

/-- The ranges of the script Latin. -/
def latin : Ranges := Ranges.ofText
  "1t p 6 p 1b 0 f 0 5 m 1 u 1 cg 13 4 55n 11 6 1c 5 3 5 c 1 1x 1t 73 a9 0 d 0 g c 3x 1 6 0 r
    0 h 14 253 v o82 2t 3 1r 5 1 1 0 1 4 o d mo 16 1 8 1 3 fpy 6 t6 p 6 p 1lx 5 1 15 1 8 16it u
    6 5"

/-- The ranges of the script Lepcha. -/
def lepcha : Ranges := Ranges.ofText
  "5j4 1j 3 e 3 2"

/-- The ranges of the script Limbu. -/
def limbu : Ranges := Ranges.ofText
  "4xs u 1 b 4 b 4 0 3 b"

/-- The ranges of the script Linear A. -/
def linearA : Ranges := Ranges.ofText
  "1fr4 8m 9 l a 7"

/-- The ranges of the script Linear B. -/
def linearB : Ranges := Ranges.ofText
  "1ekg b 1 p 1 i 1 1 1 e 2 d y 3e"

/-- The ranges of the script Lisu. -/
def lisu : Ranges := Ranges.ofText
  "wk0 1b o8g 0"

/-- The ranges of the script Lycian. -/
def lycian : Ranges := Ranges.ofText
  "1f28 s"

/-- The ranges of the script Lydian. -/
def lydian : Ranges := Ranges.ofText
  "1gdc p 5 0"

/-- The ranges of the script Mahajani. -/
def mahajani : Ranges := Ranges.ofText
  "1hzk 12"

/-- The ranges of the script Makasar. -/
def makasar : Ranges := Ranges.ofText
  "1ko0 o"

/-- The ranges of the script Malayalam. -/
def malayalam : Ranges := Ranges.ofText
  "2kg c 1 2 1 1e 1 2 1 5 4 f 2 p"

/-- The ranges of the script Mandaic. -/
def mandaic : Ranges := Ranges.ofText
  "1mo r 2 0"

/-- The ranges of the script Manichaean. -/
def manichaean : Ranges := Ranges.ofText
  "1gow 12 4 b"

/-- The ranges of the script Marchen. -/
def marchen : Ranges := Ranges.ofText
  "1k6o v 2 l 1 d"

/-- The ranges of the script Masaram Gondi. -/
def masaramGondi : Ranges := Ranges.ofText
  "1kao 6 1 1 1 17 3 0 1 1 1 8 8 9"

/-- The ranges of the script Medefaidrin. -/
def medefaidrin : Ranges := Ranges.ofText
  "20cg 2i"

/-- The ranges of the script Meetei Mayek. -/
def meeteiMayek : Ranges := Ranges.ofText
  "xr4 m 5l 19 2 9"

/-- The ranges of the script Mende Kikakui. -/
def mendeKikakui : Ranges := Ranges.ofText
  "2oe8 5g 2 f"

/-- The ranges of the script Meroitic Cursive. -/
def meroiticCursive : Ranges := Ranges.ofText
  "1ggw n 4 j 2 19"

/-- The ranges of the script Meroitic Hieroglyphs. -/
def meroiticHieroglyphs : Ranges := Ranges.ofText
  "1gg0 v"

/-- The ranges of the script Miao. -/
def miao : Ranges := Ranges.ofText
  "20hs 22 4 1k 7 g"

/-- The ranges of the script Modi. -/
def modi : Ranges := Ranges.ofText
  "1iww 1w b 9"

/-- The ranges of the script Mongolian. -/
def mongolian : Ranges := Ranges.ofText
  "4qo 1 2 0 1 j 6 2g 7 16 1e45 c"

/-- The ranges of the script Mro. -/
def mro : Ranges := Ranges.ofText
  "1zk0 u 1 9 4 1"

/-- The ranges of the script Multani. -/
def multani : Ranges := Ranges.ofText
  "1i80 6 1 0 1 3 1 e 1 a"

/-- The ranges of the script Myanmar. -/
def myanmar : Ranges := Ranges.ofText
  "35s 4f u9s u 2p v"

/-- The ranges of the script Nabataean. -/
def nabataean : Ranges := Ranges.ofText
  "1g8w u 8 8"

/-- The ranges of the script Nag Mundari. -/
def nagMundari : Ranges := Ranges.ofText
  "2nrk 15"

/-- The ranges of the script Nandinagari. -/
def nandinagari : Ranges := Ranges.ofText
  "1jmo 7 2 19 2 a"

/-- The ranges of the script New Tai Lue. -/
def newTaiLue : Ranges := Ranges.ofText
  "51c 17 4 p 6 a 3 1"

/-- The ranges of the script Newa. -/
def newa : Ranges := Ranges.ofText
  "1iio 2j 1 4"

/-- The ranges of the script Nko. -/
def nko : Ranges := Ranges.ofText
  "1j4 1m 2 2"

/-- The ranges of the script Nushu. -/
def nushu : Ranges := Ranges.ofText
  "20o1 0 cy6 az"

/-- The ranges of the script Nyiakeng Puachue Hmong. -/
def nyiakengPuachueHmong : Ranges := Ranges.ofText
  "2n0g 18 3 d 2 9 4 1"

/-- The ranges of the script Ogham. -/
def ogham : Ranges := Ranges.ofText
  "4g0 s"

/-- The ranges of the script Ol Chiki. -/
def olChiki : Ranges := Ranges.ofText
  "5lc 1b"

/-- The ranges of the script Old Hungarian. -/
def oldHungarian : Ranges := Ranges.ofText
  "1h1c 1e d 1e 7 5"

/-- The ranges of the script Old Italic. -/
def oldItalic : Ranges := Ranges.ofText
  "1f5s z 9 2"

/-- The ranges of the script Old North Arabian. -/
def oldNorthArabian : Ranges := Ranges.ofText
  "1gn4 v"

/-- The ranges of the script Old Permic. -/
def oldPermic : Ranges := Ranges.ofText
  "1f80 16"

/-- The ranges of the script Old Persian. -/
def oldPersian : Ranges := Ranges.ofText
  "1fa8 z 4 d"

/-- The ranges of the script Old Sogdian. -/
def oldSogdian : Ranges := Ranges.ofText
  "1hj4 13"

/-- The ranges of the script Old South Arabian. -/
def oldSouthArabian : Ranges := Ranges.ofText
  "1gm8 v"

/-- The ranges of the script Old Turkic. -/
def oldTurkic : Ranges := Ranges.ofText
  "1gxs 20"

/-- The ranges of the script Old Uyghur. -/
def oldUyghur : Ranges := Ranges.ofText
  "1hm8 p"

/-- The ranges of the script Oriya. -/
def oriya : Ranges := Ranges.ofText
  "269 2 1 7 2 1 2 l 1 6 1 1 1 4 2 8 2 1 2 2 7 2 4 1 1 4 2 h"

/-- The ranges of the script Osage. -/
def osage : Ranges := Ranges.ofText
  "1fhs z 4 z"

/-- The ranges of the script Osmanya. -/
def osmanya : Ranges := Ranges.ofText
  "1fgg t 2 9"

/-- The ranges of the script Pahawh Hmong. -/
def pahawhHmong : Ranges := Ranges.ofText
  "1zpc 1x a 9 1 6 1 k 5 i"

/-- The ranges of the script Palmyrene. -/
def palmyrene : Ranges := Ranges.ofText
  "1g80 v"

/-- The ranges of the script Pau Cin Hau. -/
def pauCinHau : Ranges := Ranges.ofText
  "1juo 1k"

/-- The ranges of the script Phags Pa. -/
def phagsPa : Ranges := Ranges.ofText
  "x8g 1j"

/-- The ranges of the script Phoenician. -/
def phoenician : Ranges := Ranges.ofText
  "1gcg r 3 0"

/-- The ranges of the script Psalter Pahlavi. -/
def psalterPahlavi : Ranges := Ranges.ofText
  "1gu8 h 7 3 c 6"

/-- The ranges of the script Rejang. -/
def rejang : Ranges := Ranges.ofText
  "xf4 z b 0"

/-- The ranges of the script Runic. -/
def runic : Ranges := Ranges.ofText
  "4gw 22 3 a"

/-- The ranges of the script Samaritan. -/
def samaritan : Ranges := Ranges.ofText
  "1kw 19 2 e"

/-- The ranges of the script Saurashtra. -/
def saurashtra : Ranges := Ranges.ofText
  "xa8 1x 8 b"

/-- The ranges of the script Sharada. -/
def sharada : Ranges := Ranges.ofText
  "1i0w 2n"

/-- The ranges of the script Shavian. -/
def shavian : Ranges := Ranges.ofText
  "1ff4 1b"

/-- The ranges of the script Siddham. -/
def siddham : Ranges := Ranges.ofText
  "1itc 1h 2 11"

/-- The ranges of the script SignWriting. -/
def signWriting : Ranges := Ranges.ofText
  "2l8g i3 f 4 1 e"

/-- The ranges of the script Sinhala. -/
def sinhala : Ranges := Ranges.ofText
  "2o1 2 1 h 3 n 1 8 1 0 2 6 3 0 4 5 1 0 1 7 6 9 2 2 1fcc j"

/-- The ranges of the script Sogdian. -/
def sogdian : Ranges := Ranges.ofText
  "1hkg 15"

/-- The ranges of the script Sora Sompeng. -/
def soraSompeng : Ranges := Ranges.ofText
  "1hw0 o 7 9"

/-- The ranges of the script Soyombo. -/
def soyombo : Ranges := Ranges.ofText
  "1jrk 2a"

/-- The ranges of the script Sundanese. -/
def sundanese : Ranges := Ranges.ofText
  "5fk 1r 74 7"

/-- The ranges of the script Syloti Nagri. -/
def sylotiNagri : Ranges := Ranges.ofText
  "x6o 18"

/-- The ranges of the script Syriac. -/
def syriac : Ranges := Ranges.ofText
  "1ds d 1 1n 2 2 7k a"

/-- The ranges of the script Tagalog. -/
def tagalog : Ranges := Ranges.ofText
  "4jk l 9 0"

/-- The ranges of the script Tagbanwa. -/
def tagbanwa : Ranges := Ranges.ofText
  "4m8 c 1 2 1 1"

/-- The ranges of the script Tai Le. -/
def taiLe : Ranges := Ranges.ofText
  "500 t 2 4"

/-- The ranges of the script Tai Tham. -/
def taiTham : Ranges := Ranges.ofText
  "55s 1q 1 s 2 a 6 9 6 d"

/-- The ranges of the script Tai Viet. -/
def taiViet : Ranges := Ranges.ofText
  "xog 1u o 4"

/-- The ranges of the script Takri. -/
def takri : Ranges := Ranges.ofText
  "1j0g 1l 6 9"

/-- The ranges of the script Tamil. -/
def tamil : Ranges := Ranges.ofText
  "29u 1 1 5 3 2 1 3 3 1 1 0 1 1 3 1 3 2 3 b 4 4 3 2 1 3 2 0 6 0 e k 1ih1 1d d 0"

/-- The ranges of the script Tangsa. -/
def tangsa : Ranges := Ranges.ofText
  "1zlc 26 1 9"

/-- The ranges of the script Tangut. -/
def tangut : Ranges := Ranges.ofText
  "20o0 0 v 4qf 8 lb e8 8"

/-- The ranges of the script Telugu. -/
def telugu : Ranges := Ranges.ofText
  "2dc c 1 2 1 m 1 f 2 8 1 2 1 3 7 1 1 2 2 0 2 3 2 9 7 8"

/-- The ranges of the script Thaana. -/
def thaana : Ranges := Ranges.ofText
  "1hc 1d"

/-- The ranges of the script Thai. -/
def thai : Ranges := Ranges.ofText
  "2rl 1l 5 r"

/-- The ranges of the script Tibetan. -/
def tibetan : Ranges := Ranges.ofText
  "2yo 1z 1 z 4 12 1 z 1 e 1 6 4 1"

/-- The ranges of the script Tifinagh. -/
def tifinagh : Ranges := Ranges.ofText
  "8xc 1j 7 1 e 0"

/-- The ranges of the script Tirhuta. -/
def tirhuta : Ranges := Ranges.ofText
  "1im8 1z 8 9"

/-- The ranges of the script Toto. -/
def toto : Ranges := Ranges.ofText
  "2nbk u"

/-- The ranges of the script Ugaritic. -/
def ugaritic : Ranges := Ranges.ofText
  "1f9c t 1 0"

/-- The ranges of the script Vai. -/
def vai : Ranges := Ranges.ofText
  "wlc 8b"

/-- The ranges of the script Vithkuqi. -/
def vithkuqi : Ranges := Ranges.ofText
  "1fn4 a 1 e 1 6 1 1 1 a 1 e 1 6 1 1"

/-- The ranges of the script Wancho. -/
def wancho : Ranges := Ranges.ofText
  "2ncw 1l 5 0"

/-- The ranges of the script Warang Citi. -/
def warangCiti : Ranges := Ranges.ofText
  "1jfk 2a c 0"

/-- The ranges of the script Yezidi. -/
def yezidi : Ranges := Ranges.ofText
  "1hfk 15 1 2 2 1"

/-- The ranges of the script Yi. -/
def yi : Ranges := Ranges.ofText
  "vls wc 3 1i"

/-- The ranges of the script Zanabazar Square. -/
def zanabazarSquare : Ranges := Ranges.ofText
  "1jpc 1z"

/-- The scripts: short name, long name, ranges. -/
def table : List (String × String × Ranges) :=
  [("Adlm", "Adlam", adlam),
   ("Ahom", "Ahom", ahom),
   ("Hluw", "Anatolian_Hieroglyphs", anatolianHieroglyphs),
   ("Arab", "Arabic", arabic),
   ("Armn", "Armenian", armenian),
   ("Avst", "Avestan", avestan),
   ("Bali", "Balinese", balinese),
   ("Bamu", "Bamum", bamum),
   ("Bass", "Bassa_Vah", bassaVah),
   ("Batk", "Batak", batak),
   ("Beng", "Bengali", bengali),
   ("Bhks", "Bhaiksuki", bhaiksuki),
   ("Bopo", "Bopomofo", bopomofo),
   ("Brah", "Brahmi", brahmi),
   ("Brai", "Braille", braille),
   ("Bugi", "Buginese", buginese),
   ("Buhd", "Buhid", buhid),
   ("Cans", "Canadian_Aboriginal", canadianAboriginal),
   ("Cari", "Carian", carian),
   ("Aghb", "Caucasian_Albanian", caucasianAlbanian),
   ("Cakm", "Chakma", chakma),
   ("Cham", "Cham", cham),
   ("Cher", "Cherokee", cherokee),
   ("Chrs", "Chorasmian", chorasmian),
   ("Zyyy", "Common", common),
   ("Copt", "Coptic", coptic),
   ("Xsux", "Cuneiform", cuneiform),
   ("Cprt", "Cypriot", cypriot),
   ("Cpmn", "Cypro_Minoan", cyproMinoan),
   ("Cyrl", "Cyrillic", cyrillic),
   ("Dsrt", "Deseret", deseret),
   ("Deva", "Devanagari", devanagari),
   ("Diak", "Dives_Akuru", divesAkuru),
   ("Dogr", "Dogra", dogra),
   ("Dupl", "Duployan", duployan),
   ("Egyp", "Egyptian_Hieroglyphs", egyptianHieroglyphs),
   ("Elba", "Elbasan", elbasan),
   ("Elym", "Elymaic", elymaic),
   ("Ethi", "Ethiopic", ethiopic),
   ("Geor", "Georgian", georgian),
   ("Glag", "Glagolitic", glagolitic),
   ("Goth", "Gothic", gothic),
   ("Gran", "Grantha", grantha),
   ("Grek", "Greek", greek),
   ("Gujr", "Gujarati", gujarati),
   ("Gong", "Gunjala_Gondi", gunjalaGondi),
   ("Guru", "Gurmukhi", gurmukhi),
   ("Hani", "Han", han),
   ("Hang", "Hangul", hangul),
   ("Rohg", "Hanifi_Rohingya", hanifiRohingya),
   ("Hano", "Hanunoo", hanunoo),
   ("Hatr", "Hatran", hatran),
   ("Hebr", "Hebrew", hebrew),
   ("Hira", "Hiragana", hiragana),
   ("Armi", "Imperial_Aramaic", imperialAramaic),
   ("Zinh", "Inherited", inherited),
   ("Phli", "Inscriptional_Pahlavi", inscriptionalPahlavi),
   ("Prti", "Inscriptional_Parthian", inscriptionalParthian),
   ("Java", "Javanese", javanese),
   ("Kthi", "Kaithi", kaithi),
   ("Knda", "Kannada", kannada),
   ("Kana", "Katakana", katakana),
   ("Kawi", "Kawi", kawi),
   ("Kali", "Kayah_Li", kayahLi),
   ("Khar", "Kharoshthi", kharoshthi),
   ("Kits", "Khitan_Small_Script", khitanSmallScript),
   ("Khmr", "Khmer", khmer),
   ("Khoj", "Khojki", khojki),
   ("Sind", "Khudawadi", khudawadi),
   ("Laoo", "Lao", lao),
   ("Latn", "Latin", latin),
   ("Lepc", "Lepcha", lepcha),
   ("Limb", "Limbu", limbu),
   ("Lina", "Linear_A", linearA),
   ("Linb", "Linear_B", linearB),
   ("Lisu", "Lisu", lisu),
   ("Lyci", "Lycian", lycian),
   ("Lydi", "Lydian", lydian),
   ("Mahj", "Mahajani", mahajani),
   ("Maka", "Makasar", makasar),
   ("Mlym", "Malayalam", malayalam),
   ("Mand", "Mandaic", mandaic),
   ("Mani", "Manichaean", manichaean),
   ("Marc", "Marchen", marchen),
   ("Gonm", "Masaram_Gondi", masaramGondi),
   ("Medf", "Medefaidrin", medefaidrin),
   ("Mtei", "Meetei_Mayek", meeteiMayek),
   ("Mend", "Mende_Kikakui", mendeKikakui),
   ("Merc", "Meroitic_Cursive", meroiticCursive),
   ("Mero", "Meroitic_Hieroglyphs", meroiticHieroglyphs),
   ("Plrd", "Miao", miao),
   ("Modi", "Modi", modi),
   ("Mong", "Mongolian", mongolian),
   ("Mroo", "Mro", mro),
   ("Mult", "Multani", multani),
   ("Mymr", "Myanmar", myanmar),
   ("Nbat", "Nabataean", nabataean),
   ("Nagm", "Nag_Mundari", nagMundari),
   ("Nand", "Nandinagari", nandinagari),
   ("Talu", "New_Tai_Lue", newTaiLue),
   ("Newa", "Newa", newa),
   ("Nkoo", "Nko", nko),
   ("Nshu", "Nushu", nushu),
   ("Hmnp", "Nyiakeng_Puachue_Hmong", nyiakengPuachueHmong),
   ("Ogam", "Ogham", ogham),
   ("Olck", "Ol_Chiki", olChiki),
   ("Hung", "Old_Hungarian", oldHungarian),
   ("Ital", "Old_Italic", oldItalic),
   ("Narb", "Old_North_Arabian", oldNorthArabian),
   ("Perm", "Old_Permic", oldPermic),
   ("Xpeo", "Old_Persian", oldPersian),
   ("Sogo", "Old_Sogdian", oldSogdian),
   ("Sarb", "Old_South_Arabian", oldSouthArabian),
   ("Orkh", "Old_Turkic", oldTurkic),
   ("Ougr", "Old_Uyghur", oldUyghur),
   ("Orya", "Oriya", oriya),
   ("Osge", "Osage", osage),
   ("Osma", "Osmanya", osmanya),
   ("Hmng", "Pahawh_Hmong", pahawhHmong),
   ("Palm", "Palmyrene", palmyrene),
   ("Pauc", "Pau_Cin_Hau", pauCinHau),
   ("Phag", "Phags_Pa", phagsPa),
   ("Phnx", "Phoenician", phoenician),
   ("Phlp", "Psalter_Pahlavi", psalterPahlavi),
   ("Rjng", "Rejang", rejang),
   ("Runr", "Runic", runic),
   ("Samr", "Samaritan", samaritan),
   ("Saur", "Saurashtra", saurashtra),
   ("Shrd", "Sharada", sharada),
   ("Shaw", "Shavian", shavian),
   ("Sidd", "Siddham", siddham),
   ("Sgnw", "SignWriting", signWriting),
   ("Sinh", "Sinhala", sinhala),
   ("Sogd", "Sogdian", sogdian),
   ("Sora", "Sora_Sompeng", soraSompeng),
   ("Soyo", "Soyombo", soyombo),
   ("Sund", "Sundanese", sundanese),
   ("Sylo", "Syloti_Nagri", sylotiNagri),
   ("Syrc", "Syriac", syriac),
   ("Tglg", "Tagalog", tagalog),
   ("Tagb", "Tagbanwa", tagbanwa),
   ("Tale", "Tai_Le", taiLe),
   ("Lana", "Tai_Tham", taiTham),
   ("Tavt", "Tai_Viet", taiViet),
   ("Takr", "Takri", takri),
   ("Taml", "Tamil", tamil),
   ("Tnsa", "Tangsa", tangsa),
   ("Tang", "Tangut", tangut),
   ("Telu", "Telugu", telugu),
   ("Thaa", "Thaana", thaana),
   ("Thai", "Thai", thai),
   ("Tibt", "Tibetan", tibetan),
   ("Tfng", "Tifinagh", tifinagh),
   ("Tirh", "Tirhuta", tirhuta),
   ("Toto", "Toto", toto),
   ("Ugar", "Ugaritic", ugaritic),
   ("Vaii", "Vai", vai),
   ("Vith", "Vithkuqi", vithkuqi),
   ("Wcho", "Wancho", wancho),
   ("Wara", "Warang_Citi", warangCiti),
   ("Yezi", "Yezidi", yezidi),
   ("Yiii", "Yi", yi),
   ("Zanb", "Zanabazar_Square", zanabazarSquare)]

end Script

end Unicode

end RunReport
