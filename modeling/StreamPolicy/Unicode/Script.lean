import StreamPolicy.Unicode.CodeSet

/-!
# Scripts

`table` has the code points of each script of Unicode 15 under the script's long and short names,
written in lower case and without separators.
-/

namespace StreamPolicy.Unicode.Script

def adlam : CodeSet := .ofGaps
  "1e900 4b 4 9 4 1"

def caucasianAlbanian : CodeSet := .ofGaps
  "10530 33 b 0"

def ahom : CodeSet := .ofGaps
  "11700 1a 2 e 4 16"

def arabic : CodeSet := .ofGaps
  "600 4 1 5 1 d 1 2 1 1f 1 9 b 19 1 6b 1 21 50 2f f0 1e 1 1 6 49 1 1c f250 72 10 16a 2 4f
    2 35 7 0 20 f 70 4 1 86 f63 1e 7e 2 df00 3 1 1a 1 1 1 0 2 0 1 9 1 3 1 0 1 0 6 0 4 0 1 0
    1 0 1 2 1 1 1 0 2 0 1 0 1 0 1 0 1 0 1 1 1 0 2 3 1 6 1 3 1 3 1 0 1 9 1 10 5 2 1 4 1 10 34
    1"

def imperialAramaic : CodeSet := .ofGaps
  "10840 15 1 8"

def armenian : CodeSet := .ofGaps
  "531 25 2 31 2 2 f583 4"

def avestan : CodeSet := .ofGaps
  "10b00 35 3 6"

def balinese : CodeSet := .ofGaps
  "1b00 4c 3 2e"

def bamum : CodeSet := .ofGaps
  "a6a0 57 c108 238"

def bassaVah : CodeSet := .ofGaps
  "16ad0 1d 2 5"

def batak : CodeSet := .ofGaps
  "1bc0 33 8 3"

def bengali : CodeSet := .ofGaps
  "980 3 1 7 2 1 2 15 1 6 1 0 3 3 2 8 2 1 2 3 8 0 4 1 1 4 2 18"

def bhaiksuki : CodeSet := .ofGaps
  "11c00 8 1 2c 1 d a 1c"

def bopomofo : CodeSet := .ofGaps
  "2ea 1 2e19 2a 70 1f"

def brahmi : CodeSet := .ofGaps
  "11000 4d 4 23 9 0"

def braille : CodeSet := .ofGaps
  "2800 ff"

def buginese : CodeSet := .ofGaps
  "1a00 1b 2 1"

def buhid : CodeSet := .ofGaps
  "1740 13"

def chakma : CodeSet := .ofGaps
  "11100 34 1 11"

def canadianAboriginal : CodeSet := .ofGaps
  "1400 27f 230 45 101ba f"

def carian : CodeSet := .ofGaps
  "102a0 30"

def cham : CodeSet := .ofGaps
  "aa00 36 9 d 2 9 2 3"

def cherokee : CodeSet := .ofGaps
  "13a0 55 2 5 9772 4f"

def chorasmian : CodeSet := .ofGaps
  "10fb0 1b"

def coptic : CodeSet := .ofGaps
  "3e2 d 2890 73 5 6"

def cyproMinoan : CodeSet := .ofGaps
  "12f90 62"

def cypriot : CodeSet := .ofGaps
  "10800 5 2 0 1 2b 1 1 3 0 2 0"

def cyrillic : CodeSet := .ofGaps
  "400 84 2 a8 1750 8 a2 0 4c 0 1067 1f 7840 5f 578e 1 e200 3d 21 0"

def devanagari : CodeSet := .ofGaps
  "900 50 4 e 2 19 9f60 1f 7200 9"

def divesAkuru : CodeSet := .ofGaps
  "11900 6 2 0 2 7 1 1 1 1d 1 1 2 b 9 9"

def dogra : CodeSet := .ofGaps
  "11800 3b"

def deseret : CodeSet := .ofGaps
  "10400 4f"

def duployan : CodeSet := .ofGaps
  "1bc00 6a 5 c 3 8 7 9 2 3"

def egyptianHieroglyphs : CodeSet := .ofGaps
  "13000 455"

def elbasan : CodeSet := .ofGaps
  "10500 27"

def elymaic : CodeSet := .ofGaps
  "10fe0 16"

def ethiopic : CodeSet := .ofGaps
  "1200 48 1 3 2 6 1 0 1 3 2 28 1 3 2 20 1 3 2 6 1 0 1 3 2 e 1 38 1 3 2 42 2 1f 3 19 19e6
    16 9 6 1 6 1 6 1 6 1 6 1 6 1 6 1 6 7d22 5 2 5 2 5 9 6 1 6 13cb1 6 1 3 1 1 1 e"

def georgian : CodeSet := .ofGaps
  "10a0 25 1 0 5 0 2 2a 1 3 b90 2a 2 2 1040 25 1 0 5 0"

def glagolitic : CodeSet := .ofGaps
  "2c00 5f 1b3a0 6 1 10 2 6 1 1 1 4"

def gunjalaGondi : CodeSet := .ofGaps
  "11d60 5 1 1 1 24 1 1 1 5 7 9"

def masaramGondi : CodeSet := .ofGaps
  "11d00 6 1 1 1 2b 3 0 1 1 1 8 8 9"

def gothic : CodeSet := .ofGaps
  "10330 1a"

def grantha : CodeSet := .ofGaps
  "11300 3 1 7 2 1 2 15 1 6 1 1 1 4 2 8 2 1 2 2 2 0 6 0 5 6 2 6 3 4"

def greek : CodeSet := .ofGaps
  "370 3 1 2 2 3 1 0 4 0 1 0 1 2 1 0 1 13 1 3e e f 1926 4 32 4 4 4 54 0 140 15 2 5 2 25 2 5
    2 7 1 0 1 0 1 0 1 1e 2 34 1 e 1 d 2 5 1 12 2 2 1 8 127 0 8a3e 0 55da 4e 11 0 d05f 45"

def gujarati : CodeSet := .ofGaps
  "a81 2 1 8 1 2 1 15 1 6 1 1 1 4 2 9 1 2 1 2 2 0 f 3 2 b 7 6"

def gurmukhi : CodeSet := .ofGaps
  "a01 2 1 5 4 1 2 15 1 6 1 1 1 1 1 1 2 0 1 4 4 1 2 2 3 0 7 3 1 0 7 10"

def hangul : CodeSet := .ofGaps
  "1100 ff 1e2e 1 101 5d 71 1e 41 1e 76e1 1c 283 2ba3 c 16 4 30 27a4 1e 3 5 2 5 2 5 2 2"

def han : CodeSet := .ofGaps
  "2e80 19 1 58 c d5 2f 0 1 0 19 8 e 3 3c4 19bf 40 51ff 5900 16d 2 69 7508 1 c 1 900e a6df
    20 1039 6 dd 2 1681 e 1d30 c1f 21d 5e2 134a 5 105f"

def hanunoo : CodeSet := .ofGaps
  "1720 14"

def hatran : CodeSet := .ofGaps
  "108e0 12 1 1 5 4"

def hebrew : CodeSet := .ofGaps
  "591 36 8 1a 4 5 f528 19 1 4 1 0 1 1 1 1 1 9"

def hiragana : CodeSet := .ofGaps
  "3041 55 6 2 17f61 11e 12 0 1d 2 40ad 0"

def anatolianHieroglyphs : CodeSet := .ofGaps
  "14400 246"

def pahawhHmong : CodeSet := .ofGaps
  "16b00 45 a 9 1 6 1 14 5 12"

def nyiakengPuachueHmong : CodeSet := .ofGaps
  "1e100 2c 3 d 2 9 4 1"

def oldHungarian : CodeSet := .ofGaps
  "10c80 32 d 32 7 5"

def oldItalic : CodeSet := .ofGaps
  "10300 23 9 2"

def javanese : CodeSet := .ofGaps
  "a980 4d 2 9 4 1"

def kayahLi : CodeSet := .ofGaps
  "a900 2d 1 0"

def katakana : CodeSet := .ofGaps
  "30a1 59 2 2 f0 f d0 2e 1 57 cc0e 9 1 2c b052 3 1 6 1 1 1 0 11f 2 32 0 e 3"

def kawi : CodeSet := .ofGaps
  "11f00 10 1 28 3 1b"

def kharoshthi : CodeSet := .ofGaps
  "10a00 3 1 1 5 7 1 2 1 1c 2 2 4 9 7 8"

def khmer : CodeSet := .ofGaps
  "1780 5d 2 9 6 9 1e6 1f"

def khojki : CodeSet := .ofGaps
  "11200 11 1 2e"

def khitanSmallScript : CodeSet := .ofGaps
  "16fe4 0 1b1b 1d5"

def kannada : CodeSet := .ofGaps
  "c80 c 1 2 1 16 1 9 1 4 2 8 1 2 1 3 7 1 6 1 1 3 2 9 1 2"

def kaithi : CodeSet := .ofGaps
  "11080 42 a 0"

def taiTham : CodeSet := .ofGaps
  "1a20 3e 1 1c 2 a 6 9 6 d"

def lao : CodeSet := .ofGaps
  "e81 1 1 0 1 4 1 17 1 0 1 16 2 4 1 0 1 6 1 9 2 3"

def latin : CodeSet := .ofGaps
  "41 19 6 19 2f 0 f 0 5 16 1 1e 1 1c0 27 4 1a1b 25 6 30 5 3 5 c 1 45 41 ff 171 0 d 0 10 c
    8d 1 6 0 1b 0 11 28 ad7 1f 7aa2 65 3 3f 5 1 1 0 1 4 18 d 330 2a 1 8 1 3 4f96 6 41a 19 6
    19 825 5 1 29 1 8 d745 1e 6 5"

def lepcha : CodeSet := .ofGaps
  "1c00 37 3 e 3 2"

def limbu : CodeSet := .ofGaps
  "1900 1e 1 b 4 b 4 0 3 b"

def linearA : CodeSet := .ofGaps
  "10600 136 9 15 a 7"

def linearB : CodeSet := .ofGaps
  "10000 b 1 19 1 12 1 1 1 e 2 d 22 7a"

def lisu : CodeSet := .ofGaps
  "a4d0 2f 7ab0 0"

def lycian : CodeSet := .ofGaps
  "10280 1c"

def lydian : CodeSet := .ofGaps
  "10920 19 5 0"

def mahajani : CodeSet := .ofGaps
  "11150 26"

def makasar : CodeSet := .ofGaps
  "11ee0 18"

def mandaic : CodeSet := .ofGaps
  "840 1b 2 0"

def manichaean : CodeSet := .ofGaps
  "10ac0 26 4 b"

def marchen : CodeSet := .ofGaps
  "11c70 1f 2 15 1 d"

def medefaidrin : CodeSet := .ofGaps
  "16e40 5a"

def mendeKikakui : CodeSet := .ofGaps
  "1e800 c4 2 f"

def meroiticCursive : CodeSet := .ofGaps
  "109a0 17 4 13 2 2d"

def meroiticHieroglyphs : CodeSet := .ofGaps
  "10980 1f"

def malayalam : CodeSet := .ofGaps
  "d00 c 1 2 1 32 1 2 1 5 4 f 2 19"

def modi : CodeSet := .ofGaps
  "11600 44 b 9"

def mongolian : CodeSet := .ofGaps
  "1800 1 2 0 1 13 6 58 7 2a fdb5 c"

def mro : CodeSet := .ofGaps
  "16a40 1e 1 9 4 1"

def meeteiMayek : CodeSet := .ofGaps
  "aae0 16 c9 2d 2 9"

def multani : CodeSet := .ofGaps
  "11280 6 1 0 1 3 1 e 1 a"

def myanmar : CodeSet := .ofGaps
  "1000 9f 9940 1e 61 1f"

def nagMundari : CodeSet := .ofGaps
  "1e4d0 29"

def nandinagari : CodeSet := .ofGaps
  "119a0 7 2 2d 2 a"

def oldNorthArabian : CodeSet := .ofGaps
  "10a80 1f"

def nabataean : CodeSet := .ofGaps
  "10880 1e 8 8"

def newa : CodeSet := .ofGaps
  "11400 5b 1 4"

def nko : CodeSet := .ofGaps
  "7c0 3a 2 2"

def nushu : CodeSet := .ofGaps
  "16fe1 0 418e 18b"

def ogham : CodeSet := .ofGaps
  "1680 1c"

def olChiki : CodeSet := .ofGaps
  "1c50 2f"

def oldTurkic : CodeSet := .ofGaps
  "10c00 48"

def oriya : CodeSet := .ofGaps
  "b01 2 1 7 2 1 2 15 1 6 1 1 1 4 2 8 2 1 2 2 7 2 4 1 1 4 2 11"

def osage : CodeSet := .ofGaps
  "104b0 23 4 23"

def osmanya : CodeSet := .ofGaps
  "10480 1d 2 9"

def oldUyghur : CodeSet := .ofGaps
  "10f70 19"

def palmyrene : CodeSet := .ofGaps
  "10860 1f"

def pauCinHau : CodeSet := .ofGaps
  "11ac0 38"

def oldPermic : CodeSet := .ofGaps
  "10350 2a"

def phagsPa : CodeSet := .ofGaps
  "a840 37"

def inscriptionalPahlavi : CodeSet := .ofGaps
  "10b60 12 5 7"

def psalterPahlavi : CodeSet := .ofGaps
  "10b80 11 7 3 c 6"

def phoenician : CodeSet := .ofGaps
  "10900 1b 3 0"

def miao : CodeSet := .ofGaps
  "16f00 4a 4 38 7 10"

def inscriptionalParthian : CodeSet := .ofGaps
  "10b40 15 2 7"

def rejang : CodeSet := .ofGaps
  "a930 23 b 0"

def hanifiRohingya : CodeSet := .ofGaps
  "10d00 27 8 9"

def runic : CodeSet := .ofGaps
  "16a0 4a 3 a"

def samaritan : CodeSet := .ofGaps
  "800 2d 2 e"

def oldSouthArabian : CodeSet := .ofGaps
  "10a60 1f"

def saurashtra : CodeSet := .ofGaps
  "a880 45 8 b"

def signwriting : CodeSet := .ofGaps
  "1d800 28b f 4 1 e"

def shavian : CodeSet := .ofGaps
  "10450 2f"

def sharada : CodeSet := .ofGaps
  "11180 5f"

def siddham : CodeSet := .ofGaps
  "11580 35 2 25"

def khudawadi : CodeSet := .ofGaps
  "112b0 3a 5 9"

def sinhala : CodeSet := .ofGaps
  "d81 2 1 11 3 17 1 8 1 0 2 6 3 0 4 5 1 0 1 7 6 9 2 2 103ec 13"

def sogdian : CodeSet := .ofGaps
  "10f30 29"

def oldSogdian : CodeSet := .ofGaps
  "10f00 27"

def soraSompeng : CodeSet := .ofGaps
  "110d0 18 7 9"

def soyombo : CodeSet := .ofGaps
  "11a50 52"

def sundanese : CodeSet := .ofGaps
  "1b80 3f 100 7"

def sylotiNagri : CodeSet := .ofGaps
  "a800 2c"

def syriac : CodeSet := .ofGaps
  "700 d 1 3b 2 2 110 a"

def tagbanwa : CodeSet := .ofGaps
  "1760 c 1 2 1 1"

def takri : CodeSet := .ofGaps
  "11680 39 6 9"

def taiLe : CodeSet := .ofGaps
  "1950 1d 2 4"

def newTaiLue : CodeSet := .ofGaps
  "1980 2b 4 19 6 a 3 1"

def tamil : CodeSet := .ofGaps
  "b82 1 1 5 3 2 1 3 3 1 1 0 1 1 3 1 3 2 3 b 4 4 3 2 1 3 2 0 6 0 e 14 113c5 31 d 0"

def tangut : CodeSet := .ofGaps
  "16fe0 0 1f 17f7 8 2ff 200 8"

def taiViet : CodeSet := .ofGaps
  "aa80 42 18 4"

def telugu : CodeSet := .ofGaps
  "c00 c 1 2 1 16 1 f 2 8 1 2 1 3 7 1 1 2 2 0 2 3 2 9 7 8"

def tifinagh : CodeSet := .ofGaps
  "2d30 37 7 1 e 0"

def tagalog : CodeSet := .ofGaps
  "1700 15 9 0"

def thaana : CodeSet := .ofGaps
  "780 31"

def thai : CodeSet := .ofGaps
  "e01 39 5 1b"

def tibetan : CodeSet := .ofGaps
  "f00 47 1 23 4 26 1 23 1 e 1 6 4 1"

def tirhuta : CodeSet := .ofGaps
  "11480 47 8 9"

def tangsa : CodeSet := .ofGaps
  "16a70 4e 1 9"

def toto : CodeSet := .ofGaps
  "1e290 1e"

def ugaritic : CodeSet := .ofGaps
  "10380 1d 1 0"

def vai : CodeSet := .ofGaps
  "a500 12b"

def vithkuqi : CodeSet := .ofGaps
  "10570 a 1 e 1 6 1 1 1 a 1 e 1 6 1 1"

def warangCiti : CodeSet := .ofGaps
  "118a0 52 c 0"

def wancho : CodeSet := .ofGaps
  "1e2c0 39 5 0"

def oldPersian : CodeSet := .ofGaps
  "103a0 23 4 d"

def cuneiform : CodeSet := .ofGaps
  "12000 399 66 6e 1 4 b c3"

def yezidi : CodeSet := .ofGaps
  "10e80 29 1 2 2 1"

def yi : CodeSet := .ofGaps
  "a000 48c 3 36"

def zanabazarSquare : CodeSet := .ofGaps
  "11a00 47"

def inherited : CodeSet := .ofGaps
  "300 6f 115 1 1c4 a 1a 0 2e0 3 115b 1e 201 2 1 c 1 6 4 0 6 0 3 1 c6 3f 20c 1 c2 20 f39 3
    6b 1 cd65 f 10 d 3cf 0 e2 0 105a 0 bbc4 2d 2 16 220 2 11 7 2 6 1e 3 c2f52 ef"

def common : CodeSet := .ofGaps
  "0 40 1a 5 1a 2e 1 e 1 4 17 0 1f 0 1c1 26 5 4 2 13 74 0 9 0 6 0 1 0 27d 0 6 0 e 0 3 0 20
    0 9c 0 204 0 81 1 4d9 0 195 3 122 0 5ef 2 47 1 cb 1 1 0 4cd 0 d 0 7 3 1 5 1 2 2 0 305 b
    2 56 1 a 3 a 1 e 11 20 3f 25 1 2 2 5 1 1a 1 10 29 2 4 296 19 a 15 39f 100 273 2 1f 1 68
    200 5d 192 b 4 4 1 0 1 18 f 7 4 3 5b 1 3 0 5a 1 93 f 20 23 3c 3f 1f 50 2f 0 58 a7 19c0
    3f 5900 21 66 2 a5 9 f4 0 a0 0 18b 0 e 1 51d2 1 d0 9 16 22 1 12 1 3 93 0 1 1f 1a 5 1a a
    a 0 2d 1 40 6 1 6 a 4 102 2 4 2c 3 8 50 c 33 2c e4 1a b9a4 3 12ac 73 3c f5 a 26 2 3d 3
    10 8 1 7 1d 4 3c d5 13 c 13 c 56 9 18 87 54 1 46 1 1 2 0 2 1 2 3 1 b 1 0 1 6 1 40 1 3 2
    7 1 6 1 1b 1 3 1 4 1 0 3 6 1 153 2 123 2 31 1471 43 4c 3c 2c2 2b 4 63 c e 2 e 1 e 1 24 a
    ad 38 19 1 1 d 2b 4 8 7 1 e 5 9a 3d7 4 10 3 c 3 76 4 5e 6 b 4 0 f b 4 37 8 9 6 27 8 1d 2
    1 4e 153 c d 2 c 3 8 7 2d 1 6 8 d 4 8 7 8 7 92 1 36 25 9 c0407 0 1e 5f"

def table : List (List String × CodeSet) :=
  [(["adlm", "adlam"], adlam),
   (["aghb", "caucasianalbanian"], caucasianAlbanian),
   (["ahom"], ahom),
   (["arab", "arabic"], arabic),
   (["armi", "imperialaramaic"], imperialAramaic),
   (["armn", "armenian"], armenian),
   (["avst", "avestan"], avestan),
   (["bali", "balinese"], balinese),
   (["bamu", "bamum"], bamum),
   (["bass", "bassavah"], bassaVah),
   (["batk", "batak"], batak),
   (["beng", "bengali"], bengali),
   (["bhks", "bhaiksuki"], bhaiksuki),
   (["bopo", "bopomofo"], bopomofo),
   (["brah", "brahmi"], brahmi),
   (["brai", "braille"], braille),
   (["bugi", "buginese"], buginese),
   (["buhd", "buhid"], buhid),
   (["cakm", "chakma"], chakma),
   (["cans", "canadianaboriginal"], canadianAboriginal),
   (["cari", "carian"], carian),
   (["cham"], cham),
   (["cher", "cherokee"], cherokee),
   (["chrs", "chorasmian"], chorasmian),
   (["copt", "coptic", "qaac"], coptic),
   (["cpmn", "cyprominoan"], cyproMinoan),
   (["cprt", "cypriot"], cypriot),
   (["cyrl", "cyrillic"], cyrillic),
   (["deva", "devanagari"], devanagari),
   (["diak", "divesakuru"], divesAkuru),
   (["dogr", "dogra"], dogra),
   (["dsrt", "deseret"], deseret),
   (["dupl", "duployan"], duployan),
   (["egyp", "egyptianhieroglyphs"], egyptianHieroglyphs),
   (["elba", "elbasan"], elbasan),
   (["elym", "elymaic"], elymaic),
   (["ethi", "ethiopic"], ethiopic),
   (["geor", "georgian"], georgian),
   (["glag", "glagolitic"], glagolitic),
   (["gong", "gunjalagondi"], gunjalaGondi),
   (["gonm", "masaramgondi"], masaramGondi),
   (["goth", "gothic"], gothic),
   (["gran", "grantha"], grantha),
   (["grek", "greek"], greek),
   (["gujr", "gujarati"], gujarati),
   (["guru", "gurmukhi"], gurmukhi),
   (["hang", "hangul"], hangul),
   (["hani", "han"], han),
   (["hano", "hanunoo"], hanunoo),
   (["hatr", "hatran"], hatran),
   (["hebr", "hebrew"], hebrew),
   (["hira", "hiragana"], hiragana),
   (["hluw", "anatolianhieroglyphs"], anatolianHieroglyphs),
   (["hmng", "pahawhhmong"], pahawhHmong),
   (["hmnp", "nyiakengpuachuehmong"], nyiakengPuachueHmong),
   (["hung", "oldhungarian"], oldHungarian),
   (["ital", "olditalic"], oldItalic),
   (["java", "javanese"], javanese),
   (["kali", "kayahli"], kayahLi),
   (["kana", "katakana"], katakana),
   (["kawi"], kawi),
   (["khar", "kharoshthi"], kharoshthi),
   (["khmr", "khmer"], khmer),
   (["khoj", "khojki"], khojki),
   (["kits", "khitansmallscript"], khitanSmallScript),
   (["knda", "kannada"], kannada),
   (["kthi", "kaithi"], kaithi),
   (["lana", "taitham"], taiTham),
   (["laoo", "lao"], lao),
   (["latn", "latin"], latin),
   (["lepc", "lepcha"], lepcha),
   (["limb", "limbu"], limbu),
   (["lina", "lineara"], linearA),
   (["linb", "linearb"], linearB),
   (["lisu"], lisu),
   (["lyci", "lycian"], lycian),
   (["lydi", "lydian"], lydian),
   (["mahj", "mahajani"], mahajani),
   (["maka", "makasar"], makasar),
   (["mand", "mandaic"], mandaic),
   (["mani", "manichaean"], manichaean),
   (["marc", "marchen"], marchen),
   (["medf", "medefaidrin"], medefaidrin),
   (["mend", "mendekikakui"], mendeKikakui),
   (["merc", "meroiticcursive"], meroiticCursive),
   (["mero", "meroitichieroglyphs"], meroiticHieroglyphs),
   (["mlym", "malayalam"], malayalam),
   (["modi"], modi),
   (["mong", "mongolian"], mongolian),
   (["mroo", "mro"], mro),
   (["mtei", "meeteimayek"], meeteiMayek),
   (["mult", "multani"], multani),
   (["mymr", "myanmar"], myanmar),
   (["nagm", "nagmundari"], nagMundari),
   (["nand", "nandinagari"], nandinagari),
   (["narb", "oldnortharabian"], oldNorthArabian),
   (["nbat", "nabataean"], nabataean),
   (["newa"], newa),
   (["nkoo", "nko"], nko),
   (["nshu", "nushu"], nushu),
   (["ogam", "ogham"], ogham),
   (["olck", "olchiki"], olChiki),
   (["orkh", "oldturkic"], oldTurkic),
   (["orya", "oriya"], oriya),
   (["osge", "osage"], osage),
   (["osma", "osmanya"], osmanya),
   (["ougr", "olduyghur"], oldUyghur),
   (["palm", "palmyrene"], palmyrene),
   (["pauc", "paucinhau"], pauCinHau),
   (["perm", "oldpermic"], oldPermic),
   (["phag", "phagspa"], phagsPa),
   (["phli", "inscriptionalpahlavi"], inscriptionalPahlavi),
   (["phlp", "psalterpahlavi"], psalterPahlavi),
   (["phnx", "phoenician"], phoenician),
   (["plrd", "miao"], miao),
   (["prti", "inscriptionalparthian"], inscriptionalParthian),
   (["rjng", "rejang"], rejang),
   (["rohg", "hanifirohingya"], hanifiRohingya),
   (["runr", "runic"], runic),
   (["samr", "samaritan"], samaritan),
   (["sarb", "oldsoutharabian"], oldSouthArabian),
   (["saur", "saurashtra"], saurashtra),
   (["sgnw", "signwriting"], signwriting),
   (["shaw", "shavian"], shavian),
   (["shrd", "sharada"], sharada),
   (["sidd", "siddham"], siddham),
   (["sind", "khudawadi"], khudawadi),
   (["sinh", "sinhala"], sinhala),
   (["sogd", "sogdian"], sogdian),
   (["sogo", "oldsogdian"], oldSogdian),
   (["sora", "sorasompeng"], soraSompeng),
   (["soyo", "soyombo"], soyombo),
   (["sund", "sundanese"], sundanese),
   (["sylo", "sylotinagri"], sylotiNagri),
   (["syrc", "syriac"], syriac),
   (["tagb", "tagbanwa"], tagbanwa),
   (["takr", "takri"], takri),
   (["tale", "taile"], taiLe),
   (["talu", "newtailue"], newTaiLue),
   (["taml", "tamil"], tamil),
   (["tang", "tangut"], tangut),
   (["tavt", "taiviet"], taiViet),
   (["telu", "telugu"], telugu),
   (["tfng", "tifinagh"], tifinagh),
   (["tglg", "tagalog"], tagalog),
   (["thaa", "thaana"], thaana),
   (["thai"], thai),
   (["tibt", "tibetan"], tibetan),
   (["tirh", "tirhuta"], tirhuta),
   (["tnsa", "tangsa"], tangsa),
   (["toto"], toto),
   (["ugar", "ugaritic"], ugaritic),
   (["vaii", "vai"], vai),
   (["vith", "vithkuqi"], vithkuqi),
   (["wara", "warangciti"], warangCiti),
   (["wcho", "wancho"], wancho),
   (["xpeo", "oldpersian"], oldPersian),
   (["xsux", "cuneiform"], cuneiform),
   (["yezi", "yezidi"], yezidi),
   (["yiii", "yi"], yi),
   (["zanb", "zanabazarsquare"], zanabazarSquare),
   (["zinh", "inherited", "qaai"], inherited),
   (["zyyy", "common"], common)]

end StreamPolicy.Unicode.Script
