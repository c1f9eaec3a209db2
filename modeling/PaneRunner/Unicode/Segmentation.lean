import PaneRunner.Unicode.Emoji
import PaneRunner.Unicode.Graphemes
import PaneRunner.Unicode.Ideographs
import PaneRunner.Unicode.Script

/-
  Where a text is broken into characters as readers see them, into words and into sentences: the
  kinds of characters that decide it. Most are made up of categories and a few characters.
-/
namespace PaneRunner.Unicode

/-- The Hangul syllables that end in a vowel: every twenty-eighth. -/
def hangulStarts : CharSet :=
  .ofList ((List.range 399).map fun i => 0xAC00 + 28 * i)

/-- The characters that a text is not broken before. -/
def extend : CharSet :=
  .unions [graphemeExtend, Category.set [.mc], emojiModifier]

/-- What does not stand alone, by the names of the property Grapheme_Cluster_Break. -/
def graphemeBreaks : List (List String × CharSet) :=
  [(["cr"],
      table ["d"]),
    (["lf"],
      table ["a"]),
    (["cn", "control"],
      (CharSet.unions [Category.set [.zl, .zp, .cc, .cf],
        (Category.set [.cn]).inter defaultIgnorable]).diff
        (.unions [table ["a d 200c-200d"], prependedMark, graphemeExtend])),
    (["ex", "extend"],
      graphemeExtend.union emojiModifier),
    (["l"],
      table ["1100-115f a960-a97c"]),
    (["v"],
      table ["1160-11a7 d7b0-d7c6 16d63 16d67-16d6a"]),
    (["t"],
      table ["11a8-11ff d7cb-d7fb"]),
    (["lv"],
      hangulStarts),
    (["lvt"],
      (table ["ac00-d7a3"]).diff hangulStarts),
    (["pp", "prepend"],
      table ["600-605 6dd 70f 890-891 8e2 d4e 110bd 110cd 111c2-111c3 113d1 1193f 11941",
        "11a3a 11a84-11a89 11d46 11f02"]),
    (["regionalindicator", "ri"],
      regionalIndicator),
    (["sm", "spacingmark"],
      ((Category.set [.mc]).diff graphemeExtend).symmDiff
        (table ["e33 eb3 102b-102c 1038 1062-1064 1067-106d 1083 1087-108c 108f 109a-109c",
          "1a61 1a63-1a64 aa7b aa7d 11720-11721"])),
    (["zwj"],
      table ["200d"])]

/-- The letters of the Hebrew script. -/
def hebrewLetter : CharSet :=
  (scriptOf "hebr").inter (Category.set [.lo])

/-- The marks and signs that go with what is before them in a word. -/
def wordExtend : CharSet :=
  extend.diff (table ["200d"])

/-- What words are broken between, by the names of the property Word_Break. -/
def wordBreaks : List (List String × CharSet) :=
  [(["aletter", "le"],
      (alphabetic.diff (.unions [ideographic, scriptOf "kana", scriptOf "hira", wordExtend,
        hebrewLetter])).symmDiff
        (table ["2c2-2c5 2d2-2d7 2de-2df 2e5-2eb 2ed 2ef-2ff 55a-55c 55e 58a 5f3 70f",
          "e01-e30 e32-e33 e40-e46 e81-e82 e84 e86-e8a e8c-ea3 ea5 ea7-eb0 eb2-eb3",
          "ebd ec0-ec4 ec6 edc-edf 1000-102a 103f 1050-1055 105a-105d 1061 1065-1066",
          "106e-1070 1075-1081 108e 1780-17b3 17d7 17dc 1950-196d 1970-1974 1980-19ab",
          "19b0-19c9 1a20-1a54 1aa7 3031-3035 30fc a708-a716 a720-a721 a789-a78a",
          "a9e0-a9e4 a9e6-a9ef a9fa-a9fe aa60-aa76 aa7a aa7e-aaaf aab1 aab5-aab6",
          "aab9-aabd aac0 aac2 aadb-aadd ab5b ff70 11700-1171a 11740-11746"])),
    (["cr"],
      table ["d"]),
    (["lf"],
      table ["a"]),
    (["newline", "nl"],
      table ["b-c 85 2028-2029"]),
    (["doublequote", "dq"],
      table ["22"]),
    (["singlequote", "sq"],
      table ["27"]),
    (["extend"],
      wordExtend),
    (["ex", "extendnumlet"],
      (Category.set [.pc]).union (table ["202f"])),
    (["fo", "format"],
      (Category.set [.cf]).symmDiff
        (table ["600-605 6dd 70f 890-891 8e2 200b-200d 110bd 110cd e0020-e007f"])),
    (["hebrewletter", "hl"],
      hebrewLetter),
    (["ka", "katakana"],
      (scriptOf "kana").union (table ["3031-3035 309b-309c 30a0 30fc ff70"])),
    (["midletter", "ml"],
      table ["3a b7 387 55f 5f4 2027 fe13 fe55 ff1a"]),
    (["midnum", "mn"],
      table ["2c 3b 37e 589 60c-60d 66c 7f8 2044 fe50 fe54 ff0c ff1b"]),
    (["mb", "midnumlet"],
      table ["2e 2018-2019 2024 fe52 ff07 ff0e"]),
    (["nu", "numeric"],
      digits.symmDiff (table ["600-605 66b 6dd 890-891 8e2 19da 110bd 110cd"])),
    (["regionalindicator", "ri"],
      regionalIndicator),
    (["wsegspace"],
      (Category.set [.zs]).diff (table ["a0 2007 202f"])),
    (["zwj"],
      table ["200d"])]

/-- Lowercase letters at the start of a sentence's part. -/
def sentenceLower : CharSet :=
  (lowercase.diff graphemeExtend).symmDiff (table ["10d0-10fa 10fd-10ff"])

/-- Letters that may start a sentence. -/
def sentenceUpper : CharSet :=
  (uppercase.union (Category.set [.lt])).symmDiff (table ["1c90-1cba 1cbd-1cbf"])

/-- The marks that go with what is before them in a sentence. -/
def sentenceExtend : CharSet :=
  .unions [graphemeExtend, Category.set [.mc], table ["200d"]]

/-- What sentences are broken between, by the names of the property Sentence_Break. -/
def sentenceBreaks : List (List String × CharSet) :=
  [(["at", "aterm"],
      table ["2e 2024 fe52 ff0e"]),
    (["cr"],
      table ["d"]),
    (["lf"],
      table ["a"]),
    (["se", "sep"],
      table ["85 2028-2029"]),
    (["cl", "close"],
      ((Category.set [.ps, .pe, .pi, .pf]).union quotationMark).symmDiff
        (table ["275b-2760 2e00-2e01 2e06-2e08 2e0b ff02 ff07 1f676-1f678"])),
    (["ex", "extend"],
      sentenceExtend),
    (["fo", "format"],
      (Category.set [.cf]).symmDiff
        (table ["600-605 6dd 890-891 8e2 200c-200d 110bd 110cd e0020-e007f"])),
    (["lo", "lower"],
      sentenceLower),
    (["nu", "numeric"],
      digits.symmDiff (table ["600-605 66b-66c 6dd 890-891 8e2 19da 110bd 110cd"])),
    (["le", "oletter"],
      (alphabetic.union (table ["5f3"])).diff
        (.unions [sentenceLower, sentenceUpper, sentenceExtend])),
    (["sc", "scontinue"],
      table ["2c-2d 3a-3b 37e 55d 60c-60d 7f8 1802 1808 2013-2014 3001 fe10-fe11 fe13-fe14",
        "fe31-fe32 fe50-fe51 fe54-fe55 fe58 fe63 ff0c-ff0d ff1a-ff1b ff64"]),
    (["st", "sterm"],
      sentenceTerminal.diff (table ["2e 2024 fe52 ff0e"])),
    (["sp"],
      whiteSpace.diff (table ["a d 85 2028-2029"])),
    (["up", "upper"],
      sentenceUpper)]

end PaneRunner.Unicode
