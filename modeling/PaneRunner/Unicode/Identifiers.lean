import PaneRunner.Unicode.Letters
import PaneRunner.Unicode.Symbols

/-
  What names in programs are made of.
-/
namespace PaneRunner.Unicode

/-- Characters that may start a name besides letters. -/
def otherIdStart : CharSet := table
  ["1885-1886 2118 212e 309b-309c"]

/-- Characters that may go on with a name besides marks and digits. -/
def otherIdContinue : CharSet := table
  ["b7 387 1369-1371 19da 200c-200d 30fb ff65"]

/-- The property ID_Start. -/
def idStart : CharSet :=
  (CharSet.unions [letters, Category.set [.nl], otherIdStart]).diff
    (patternSyntax.union patternWhiteSpace)

/-- The property ID_Continue. -/
def idContinue : CharSet :=
  (CharSet.unions [idStart, Category.set [.mn, .mc, .nd, .pc], otherIdContinue]).diff
    (patternSyntax.union patternWhiteSpace)

/-- The characters that start a name and still do in their compatible forms. -/
def xidStart : CharSet :=
  idStart.diff (table
    ["37a e33 eb3 309b-309c fc5e-fc63 fdfa-fdfb fe70 fe72 fe74 fe76 fe78 fe7a fe7c fe7e",
      "ff9e-ff9f"])

/-- The characters that go on with a name and still do in their compatible forms. -/
def xidContinue : CharSet :=
  idContinue.diff (table
    ["37a 309b-309c fc5e-fc63 fdfa-fdfb fe70 fe72 fe74 fe76 fe78 fe7a fe7c fe7e"])

/-- Characters that may start a name in mathematics. -/
def idCompatMathStart : CharSet := table
  ["2202 2207 221e 1d6c1 1d6db 1d6fb 1d715 1d735 1d74f 1d76f 1d789 1d7a9 1d7c3"]

/-- Characters that may go on with a name in mathematics. -/
def idCompatMathContinue : CharSet := table
  ["b2-b3 b9 2070 2074-207e 2080-208e 2202 2207 221e 1d6c1 1d6db 1d6fb 1d715 1d735 1d74f",
    "1d76f 1d789 1d7a9 1d7c3"]

end PaneRunner.Unicode
