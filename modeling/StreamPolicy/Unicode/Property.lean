import StreamPolicy.Unicode.Category

/-!
# Properties of code points

The yes-or-no properties of Unicode 15 that patterns and texts ask for, under their names in
`table`. Those that follow the general categories with few exceptions are written that way.
-/

namespace StreamPolicy.Unicode.Property

def alphabetic : CodeSet :=
  CodeSet.unions [Category.letter, Category.letterNumber, .ofGaps
    "345 0 26a d 1 0 1 1 1 1 1 0 48 a 30 c 1 6 10 0 65 6 4 3 2 1 4 0 23 0 1e f 66 a 65 1 3 8
      1 2 1 3 a7 b 3 6 6 13 36 1 2 e 1 1 5 2 a 1 1d 2 3a 6 2 1 2 1 a 0 a 1 1d 2 3a 4 4 1 2 1 4
      0 1e 1 3 0 b 2 3a 7 1 2 1 1 15 1 16 2 4 2 3a 6 2 1 2 1 9 1 a 1 1e 0 3b 4 3 2 1 2 a 0 28
      4 39 6 1 2 1 2 8 1 b 1 1d 2 3a 6 1 2 1 2 8 1 b 1 f 0 c 3 3a 6 1 2 1 2 a 0 a 1 1d 2 4b 5
      1 0 1 7 12 1 3d 0 2 6 12 0 63 0 2 5 1 1 10 0 a3 12 9 a 1 23 6e b 1 0 2 3 17 3 4 2 1 2 2
      6 3 3 d b 1 0 a 3 674 1 1e 1 1e 1 1e 1 42 12 bc 1 22 0 76 b 4 8 de 4 39 9 2 13 4a 1 b 2
      31 4 30 e 3c 2 1e 8 2 1 39 a 32 12 1b0 d 6c1 33 8f6 1f 7874 7 22 1 162 0 8 0 17 4 58 1
      32 f 1 0 39 0 26 4 1c b 2d 3 30 b 25 0 43 d c 0 8 1 2d 2 32 0 1 2 2 1 5 0 2c 4 5 0 ed 7
      4f33 0 857 4 686 2 1 1 5 3 314 3 183 1 153 2 35 d 2d 1 b 2 2d 8 9 0 3d 2 24 b 12 1 39 2
      30 c e 1 5c 8 2 0 6 0 2 0 9d 9 17 3 3a 6 2 1 2 1 a 0 a 1 d1 c 1 2 6a 11 ed 6 2 6 1d 1 52
      e 1 0 6a a 67 d 101 c f7 5 1 1 2 1 3 0 1 0 8e 6 2 5 4 0 1c 9 2a 4 1 3 12 a 2e d 197 7 1
      6 53 15 1 d 7a 5 3 0 1 1 1 2 1 0 3 0 42 4 1 1 1 3 15c 3 9 1 1 0 30 6 3 2 500e 0 1 36 7 3
      5d 1 4cac 0 2361 6 1 10 2 6 1 1 1 4 64 0 8b7 0 7e8 19 6 19 6 19"]

def lowercase : CodeSet :=
  Category.lowercaseLetter.union (.ofGaps
    "aa 0 f 0 1f5 8 7 1 1e 4 60 0 34 0 d81 0 c2f 3e d 0 22 24 2b1 0 d 0 10 c d3 f 350 19 792
      1 7a1e 1 d2 0 81 2 3 1 362 3 9 0 5c16 0 2 2 1 29 1 8 d875 3d")

def uppercase : CodeSet :=
  Category.uppercaseLetter.union (.ofGaps
    "2160 f 346 19 1cc60 19 6 19 6 19")

def cased : CodeSet :=
  CodeSet.unions [lowercase, uppercase, Category.titlecaseLetter]

/-- Letters and letter numbers, on which identifiers are built. -/
private def nameStart : CodeSet := Category.letter.union Category.letterNumber

private def nameContinue : CodeSet :=
  CodeSet.unions [nameStart, Category.nonspacingMark, Category.spacingMark, Category.decimalNumber,
    Category.connectorPunctuation]

def idStart : CodeSet :=
  (CodeSet.union nameStart (.ofGaps
    "1885 1 891 0 15 0 f6c 1")).diff (.ofGaps
    "2e2f 0")

def idContinue : CodeSet :=
  (CodeSet.union nameContinue (.ofGaps
    "b7 0 2cf 0 fe1 8 668 0 73d 0 15 0 f6c 1")).diff (.ofGaps
    "2e2f 0")

def xidStart : CodeSet :=
  (CodeSet.union nameStart (.ofGaps
    "1885 1 891 0 15 0")).diff (.ofGaps
    "37a 0 ab8 0 7f 0 1f7b 0 ce2e 5 196 1 74 0 1 0 1 0 1 0 1 0 1 0 1 0 1 0 11f 1")

def xidContinue : CodeSet :=
  (CodeSet.union nameContinue (.ofGaps
    "b7 0 2cf 0 fe1 8 668 0 73d 0 15 0")).diff (.ofGaps
    "37a 0 2ab4 0 ce2e 5 196 1 74 0 1 0 1 0 1 0 1 0 1 0 1 0 1 0")

def whiteSpace : CodeSet := .ofGaps
  "9 4 12 0 64 0 1a 0 15df 0 97f a 1d 1 5 0 2f 0 fa0 0"

def dash : CodeSet := .ofGaps
  "2d 0 55c 0 33 0 e41 0 405 0 809 5 3d 0 27 0 f 0 186 0 c04 0 2 0 1f 1 4 0 1c 0 1be 0 13 0
    6f 0 cd90 1 25 0 a 0 a9 0 f9f 0"

def diacritic : CodeSet := .ofGaps
  "5e 0 1 0 47 0 6 0 4 0 2 1 1f7 9e 1 7 5 5 11 1 4 0 9 1 fd 4 d1 0 37 10 1 1a 1 0 1 1 1 0
    86 7 4 1 86 1 4 1 3 2 43 1a 5b a 3a a 22 1 7e 7 29 9 10 1b 3d 0 10 0 3 3 1c 0 4a 0 10 0
    6e 0 10 0 6e 0 10 0 2f 2 3c 0 10 0 7 0 77 0 6e 0 10 0 6e 0 10 0 6d 1 10 0 7c 0 7c 5 1 0
    6b 0 d 4 4b 1 1b 0 1 0 1 0 4 1 42 2 1 1 3e 0 70 0 1 1 28 1 4 4 19 6 1 0 a 1 2c1 2 3b4 1
    b3 a 9 0 15b 2 139 7 2 0 30 e 2 a 68 0 f 0 26 8 36 1 8a 1 40 5 52 18 4 0 6 0 2 2 32 3e
    59 b 25 a 1bd 0 1 2 b 2 d 2 d 2 d 1 cf0 2 13d 0 1fa 5 69 3 5f 0 7572 0 c 1 1 0 1c 1 52 1
    e 21 66 2 6d 1 ca 0 1b 11 39 3 24 0 5f 0 c 0 24 0 95 2 41 3 33 0 64 4 9 2 80 1 4f30 0
    301 f 10e 0 1 0 2f 0 2d 1 43 0 2fc 0 49f 5 1 29 1 8 32a 1 23b 5 1d5 2 46 a 31 3 c0 0 29
    0 48 1 78 1 3e 0 4c 0 9 2 68 1 b2 1 51 0 10 0 18 6 3 4 cd 0 3 0 7b 1 fb 1 7e 0 76 1 73 0
    10d 1 102 1 4 0 9c 0 53 0 12 0 51 0 1a5 0 102 0 1 1 51 0 16af e 369a 4 3b 6 458 10 50 1
    3ffe 3 1 6 1 1 1f01 2d 2 16 220 2 3 5 8 7 2 6 1e 3 e82 3d c2 6 177 0 3d 3 5e0 6 6d 2 1 2"

def emoji : CodeSet := .ofGaps
  "23 0 6 0 5 9 6f 0 4 0 1f8d 0 c 0 d8 0 16 0 5a 5 f 1 16f 1 c 0 a6 0 19 a 4 2 c7 0 e7 1 a
    0 9 0 3a 3 1 4 9 0 2 0 2 1 2 0 4 0 2 0 1 1 2 0 3 0 3 1 8 2 5 0 1 0 5 b b 1 2 0 1 1 1 0
    12 0 2 1 12 5 1 0 1 1 3 1 5 0 2 1 4 1 b 1 5 1 2 0 5 1 1 0 1 1 14 1 5 5 1 3 2 0 4 0 2 0 2
    5 1 0 2 0 1 0 1 0 6 0 3 0 6 0 a 1 f 0 2 0 4 0 1 0 4 2 1 0 b 1 30 2 9 0 e 0 e 0 174 1 1cf
    2 13 1 33 0 4 0 4da 0 c 0 259 0 1 0 1bd6a 0 ca 0 a0 1 c 1 e 0 2 9 4b 19 1 1 17 0 14 0 2
    8 15 1 ae 21 2 6f 2 1 1 2 2 52 2 2 1 106 1 3e b 5 1 17 7 1 2 7 c 0 2 3 2 0 4 1 d 1 2 0 8
    1 9 0 5 2 c 2 8 2 2 0 1 0 4 0 6 0 3 0 6 55 30 45 5 7 2 2 4 9 3 0 1 1 3 0 2 9 e3 b 4 0
    11b 2e 1 9 1 b8 70 c 3 8 7 2d 1 6 8 d 4 8 7 8"

def emojiPresentation : CodeSet := .ofGaps
  "231a 1 cd 3 3 0 2 0 209 1 15 1 32 b 2b 0 13 0 d 0 8 1 11 1 5 1 8 0 5 0 15 0 7 1 1 0 4 0
    2 0 7 0 4 1 1c 0 23 0 1 0 4 2 1 0 3d 2 18 0 e 0 35b 1 33 0 4 0 1c4ae 0 ca 0 be 0 2 9 4b
    19 1 0 18 0 14 0 2 4 1 2 15 1 ae 20 c 8 1 45 1 15 c 2a 4 4 c 10 3 0 3 46 1 0 1 ba 2 3e d
    3 1 17 12 0 1a 1 d 0 56 54 30 45 6 0 3 2 2 2 4 3 b 1 7 8 e3 b 4 0 11b 2e 1 9 1 b8 70 c 3
    8 7 2d 1 6 8 d 4 8 7 8"

def emojiModifier : CodeSet := .ofGaps
  "1f3fb 4"

def extendedPictographic : CodeSet := .ofGaps
  "a9 0 4 0 1f8d 0 c 0 d8 0 16 0 5a 5 f 1 16f 1 c 0 5f 0 46 0 19 a 4 2 c7 0 e7 1 a 0 9 0 3a
    3 1 5 1 b 1 71 a 75 2 a 1 0 1 0 6 0 3 0 6 0 a 1 f 0 2 0 4 0 1 0 4 2 1 0 b 4 2d 2 9 0 e 0
    e 0 174 1 1cf 2 13 1 33 0 4 0 4da 0 c 0 259 0 1 0 1bd66 ff d 2 1f 0 3c 5 c 1 e 0 2 9 12
    38 1b e a 0 14 0 2 8 1 3 9 1b1 5 13d 8 109 30 7f 74 b 55 2a c 3 38 7 a 5 28 7 1e 51 c 2e
    1 9 1 1b8 100 3fd"

def extender : CodeSet := .ofGaps
  "b7 0 218 1 36e 0 1b9 0 35a 0 2f0 0 7f 0 943 0 38 0 263 0 18e 0 44 0 1389 0 2b 4 67 1 5d
    2 6f16 0 5f6 0 3c2 0 16 0 89 0 6c 0 15 1 547b 0 810 1 bda 0 268 2 4cf 0 50a9 1 49c 1 1 0
    7158 1 806 2"

def hexDigit : CodeSet := .ofGaps
  "30 9 7 5 1a 5 fea9 9 7 5 1a 5"

def asciiHexDigit : CodeSet := .ofGaps
  "30 9 7 5 1a 5"

def ideographic : CodeSet := .ofGaps
  "3006 1 19 8 e 2 3c5 19bf 40 51ff 5900 16d 2 69 750a 0 1b 17f7 8 4d5 2a 8 2467 18b 4d04
    a6df 20 1039 6 dd 2 1681 e 1d30 c1f 21d 5e2 134a 5 105f"

def unifiedIdeograph : CodeSet := .ofGaps
  "3400 19bf 40 51ff 5a0e 1 1 0 1 1 a 0 1 0 1 1 2 2 105d6 a6df 20 1039 6 dd 2 1681 e 1d30
    141f 134a 5 105f"

def math : CodeSet := .ofGaps
  "2b 0 10 2 1f 0 1d 0 1 0 2d 0 4 0 25 0 1f 0 2d8 2 2 0 1a 1 2 2 20f 2 1a0d 0 1b 2 b 0 3 0
    d 0 e 3 15 4 b 4 41 c 4 0 3 1 4 4 12 0 4 0 2 9 1 0 2 5 6 0 3 1 2 1 1 2 1 5 3 d 1 0 44 17
    1 5 1 1 4 1 4 1f 1 0 6 1 e 10b 8 3 14 1 5a 0 1e 1a 1 0 18 0 b 6 1bd 1 c 9 4 5 4 1 2 1 3
    4 e 0 1 0 2 5 b 7 5 1 39 0 1 0 1d 3 9 2 150 3f 100 1ff 30 14 2 5 cfdc 0 337 5 1 0 a2 0
    10 2 1d 0 1 0 1d 0 1 0 83 0 6 3 d413 54 1 46 1 1 2 0 2 1 2 3 1 b 1 0 1 6 1 40 1 3 2 7 1
    6 1 1b 1 3 1 4 1 0 3 6 1 153 2 123 2 31 1600 3 1 1a 1 1 1 0 2 0 1 9 1 3 1 0 1 0 6 0 4 0
    1 0 1 0 1 2 1 1 1 0 2 0 1 0 1 0 1 0 1 0 1 1 1 0 2 3 1 6 1 3 1 3 1 0 1 9 1 10 5 2 1 4 1
    10 34 1"

def quotationMark : CodeSet := .ofGaps
  "22 0 4 0 83 0 f 0 1f5c 7 19 1 e07 0 1c9 3 d 2 ce21 3 bd 0 4 0 5a 1"

def joinControl : CodeSet := .ofGaps
  "200c 1"

def noncharacterCodePoint : CodeSet := .ofGaps
  "fdd0 1f 20e 1 fffe 1 fffe 1 fffe 1 fffe 1 fffe 1 fffe 1 fffe 1 fffe 1 fffe 1 fffe 1 fffe
    1 fffe 1 fffe 1 fffe 1 fffe 1 fffe 1"

def defaultIgnorableCodePoint : CodeSet := .ofGaps
  "ad 0 2a1 0 2cc 0 b42 1 653 1 55 4 7fb 4 1a 4 31 f 10f4 0 cc9b f ef 0 a0 0 4f 8 bca7 3
    14cf 7 c2e85 fff"

def patternWhiteSpace : CodeSet := .ofGaps
  "9 4 12 0 64 0 1f88 1 18 1"

def patternSyntax : CodeSet := .ofGaps
  "21 e a 6 1a 3 1 0 1a 3 22 6 1 0 1 1 1 0 1 1 4 0 4 0 3 0 17 0 1f 0 1f18 17 8 e 2 12 1 9
    131 2cf a0 275 1e 46b 200 7f 181 2 4 18 f 0 cd0d 1 105 1"

def regionalIndicator : CodeSet := .ofGaps
  "1f1e6 19"

def variationSelector : CodeSet := .ofGaps
  "180b 2 1 0 e5f0 f d02f0 ef"

def bidiControl : CodeSet := .ofGaps
  "61c 0 19f1 1 1a 4 37 3"

def softDotted : CodeSet := .ofGaps
  "69 1 c4 0 119 0 1e 0 34 0 14 0 140 0 62 0 1 0 1909 0 33 0 d 0 3 0 84 0 9d 0 1a5 0 d6 1
    b32 0 1a7a5 1 32 1 32 1 32 1 32 1 32 1 32 1 32 1 32 1 32 1 32 1 32 1 32 1 886 0 131 1 1a
    0"

def radical : CodeSet := .ofGaps
  "2e80 19 1 58 c d5"

def table : List (List String × CodeSet) :=
  [(["alpha", "alphabetic"], alphabetic),
   (["lower", "lowercase"], lowercase),
   (["upper", "uppercase"], uppercase),
   (["cased"], cased),
   (["ids", "idstart"], idStart),
   (["idc", "idcontinue"], idContinue),
   (["xids", "xidstart"], xidStart),
   (["xidc", "xidcontinue"], xidContinue),
   (["wspace", "whitespace", "space"], whiteSpace),
   (["dash"], dash),
   (["dia", "diacritic"], diacritic),
   (["emoji"], emoji),
   (["epres", "emojipresentation"], emojiPresentation),
   (["emod", "emojimodifier"], emojiModifier),
   (["extpict", "extendedpictographic"], extendedPictographic),
   (["ext", "extender"], extender),
   (["hex", "hexdigit"], hexDigit),
   (["ahex", "asciihexdigit"], asciiHexDigit),
   (["ideo", "ideographic"], ideographic),
   (["uideo", "unifiedideograph"], unifiedIdeograph),
   (["math"], math),
   (["qmark", "quotationmark"], quotationMark),
   (["joinc", "joincontrol"], joinControl),
   (["nchar", "noncharactercodepoint"], noncharacterCodePoint),
   (["di", "defaultignorablecodepoint"], defaultIgnorableCodePoint),
   (["patws", "patternwhitespace"], patternWhiteSpace),
   (["patsyn", "patternsyntax"], patternSyntax),
   (["ri", "regionalindicator"], regionalIndicator),
   (["vs", "variationselector"], variationSelector),
   (["bidic", "bidicontrol"], bidiControl),
   (["sd", "softdotted"], softDotted),
   (["radical"], radical)]

end StreamPolicy.Unicode.Property
