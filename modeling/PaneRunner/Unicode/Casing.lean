import PaneRunner.Unicode.Folding
import PaneRunner.Unicode.Graphemes
import PaneRunner.Unicode.Letters

/-
  Case and the changes of case. What folds, or is folded to, nearly tells what changes when a text
  is put in another case; the characters where the two differ are listed here.
-/
namespace PaneRunner.Unicode

/-- The characters that fold to another one. -/
def foldingChars : CharSet :=
  .ofList (foldPairs.map (·.1))

/-- The characters that another one folds to. -/
def foldedChars : CharSet :=
  .ofList (foldPairs.map (·.2))

/-- The property Cased. -/
def cased : CharSet :=
  .unions [lowercase, uppercase, Category.set [.lt]]

/-- Punctuation inside words. -/
def midWord : CharSet := table
  ["27 2e 3a b7 387 55f 5f4 2018-2019 2024 2027 fe13 fe52 fe55 ff07 ff0e ff1a"]

/-- The property Case_Ignorable. -/
def caseIgnorable : CharSet :=
  (Category.set [.mn, .me, .cf, .lm, .sk]).union midWord

/-- The property Changes_When_Casefolded. -/
def changesWhenCasefolded : CharSet :=
  foldingChars.symmDiff (table
    ["df 130 149 587 1e9a 1f80-1f87 1f90-1f97 1fa0-1fa7 1fb2-1fb4 1fb7 1fbe 1fc2-1fc4",
      "1fc7 1fd3 1fe3 1ff2-1ff4 1ff7 fb00-fb04 fb06 fb13-fb17"])

/-- The property Changes_When_Lowercased. -/
def changesWhenLowercased : CharSet :=
  foldingChars.symmDiff (table
    ["b5 130 17f 345 3c2 3d0-3d1 3d5-3d6 3f0-3f1 3f5 13a0-13f5 13f8-13fd 1c80-1c88 1e9b",
      "1fbe 1fd3 1fe3 ab70-abbf fb05"])

/-- The property Changes_When_Uppercased. -/
def changesWhenUppercased : CharSet :=
  foldedChars.symmDiff (table
    ["b5 131 149 17f 1c5 1c8 1cb 1f0 1f2 345 3c2 3d0-3d1 3d5-3d6 3f0-3f1 3f5 587",
      "13a0-13f5 13f8-13fd 1c80-1c88 1e96-1e9b 1f50 1f52 1f54 1f56 1f88-1f8f 1f98-1f9f",
      "1fa8-1faf 1fb2 1fb4 1fb6-1fb7 1fbc 1fbe 1fc2 1fc4 1fc6-1fc7 1fcc 1fd2-1fd3",
      "1fd6-1fd7 1fe2-1fe4 1fe6-1fe7 1ff2 1ff4 1ff6-1ff7 1ffc ab70-abbf fb00-fb05",
      "fb13-fb17"])

/-- The property Changes_When_Titlecased. -/
def changesWhenTitlecased : CharSet :=
  changesWhenUppercased.symmDiff (table
    ["1c4-1c5 1c7-1c8 1ca-1cb 1f1-1f2 10d0-10fa 10fd-10ff 1f88-1f8f 1f98-1f9f 1fa8-1faf",
      "1fbc 1fcc 1ffc"])

/-- The property Changes_When_Casemapped. -/
def changesWhenCasemapped : CharSet :=
  .unions [changesWhenLowercased, changesWhenUppercased, changesWhenTitlecased]

end PaneRunner.Unicode
