import PaneRunner.Unicode.Age
import PaneRunner.Unicode.Casing
import PaneRunner.Unicode.Emoji
import PaneRunner.Unicode.Graphemes
import PaneRunner.Unicode.Identifiers
import PaneRunner.Unicode.Ideographs
import PaneRunner.Unicode.Script
import PaneRunner.Unicode.ScriptExtensions
import PaneRunner.Unicode.Segmentation
import PaneRunner.Unicode.Symbols

/-
  Properties of characters by their names, which are those of the Unicode Character Database, short
  and long. A name alone is a binary property, a general category or a script; other properties
  have a value that is named too.
-/
namespace PaneRunner.Unicode

/-- A name as names are compared: ASCII letters in lower case, without blanks, hyphens, underscores
and the letters "is" in front. -/
def plainName (name : String) : String :=
  let cs := name.toList.map Char.toLower
  let (stripped, cs) := match cs with
    | 'i' :: 's' :: rest => (true, rest)
    | cs => (false, cs)
  let cs := cs.filter fun c =>
    decide (c.toNat < 128) && c != ' ' && c != '_' && c != '-'
  if stripped && cs = ['c'] then "isc" else .ofList cs

/-- The binary properties by their names. -/
def binaries : List (List String × CharSet) :=
  [(["ahex", "asciihexdigit"], asciiHexDigit),
    (["alpha", "alphabetic"], alphabetic),
    (["bidic", "bidicontrol"], bidiControl),
    (["bidim", "bidimirrored"], bidiMirrored),
    (["caseignorable", "ci"], caseIgnorable),
    (["cased"], cased),
    (["changeswhencasefolded", "cwcf"], changesWhenCasefolded),
    (["changeswhencasemapped", "cwcm"], changesWhenCasemapped),
    (["changeswhenlowercased", "cwl"], changesWhenLowercased),
    (["changeswhentitlecased", "cwt"], changesWhenTitlecased),
    (["changeswhenuppercased", "cwu"], changesWhenUppercased),
    (["dash"], dash),
    (["defaultignorablecodepoint", "di"], defaultIgnorable),
    (["dep", "deprecated"], deprecated),
    (["dia", "diacritic"], diacritic),
    (["emoji"], emoji),
    (["ecomp", "emojicomponent"], emojiComponent),
    (["emod", "emojimodifier"], emojiModifier),
    (["ebase", "emojimodifierbase"], emojiModifierBase),
    (["emojipresentation", "epres"], emojiPresentation),
    (["extendedpictographic", "extpict"], extendedPictographic),
    (["ext", "extender"], extender),
    (["graphemebase", "grbase"], graphemeBase),
    (["graphemeextend", "grext"], graphemeExtend),
    (["graphemelink", "grlink"], graphemeLink),
    (["hex", "hexdigit"], hexDigit),
    (["hyphen"], hyphen),
    (["idsb", "idsbinaryoperator"], idsBinaryOperator),
    (["idst", "idstrinaryoperator"], idsTrinaryOperator),
    (["idsu", "idsunaryoperator"], idsUnaryOperator),
    (["idcompatmathcontinue"], idCompatMathContinue),
    (["idcompatmathstart"], idCompatMathStart),
    (["idc", "idcontinue"], idContinue),
    (["ids", "idstart"], idStart),
    (["ideo", "ideographic"], ideographic),
    (["joinc", "joincontrol"], joinControl),
    (["loe", "logicalorderexception"], logicalOrderException),
    (["lower", "lowercase"], lowercase),
    (["math"], math),
    (["mcm", "modifiercombiningmark"], modifierCombiningMark),
    (["nchar", "noncharactercodepoint"], noncharacter),
    (["oalpha", "otheralphabetic"], otherAlphabetic),
    (["odi", "otherdefaultignorablecodepoint"], otherIgnorable),
    (["ogrext", "othergraphemeextend"], otherGraphemeExtend),
    (["oidc", "otheridcontinue"], otherIdContinue),
    (["oids", "otheridstart"], otherIdStart),
    (["olower", "otherlowercase"], otherLowercase),
    (["omath", "othermath"], otherMath),
    (["otheruppercase", "oupper"], otherUppercase),
    (["patsyn", "patternsyntax"], patternSyntax),
    (["patternwhitespace", "patws"], patternWhiteSpace),
    (["pcm", "prependedconcatenationmark"], prependedMark),
    (["qmark", "quotationmark"], quotationMark),
    (["radical"], radical),
    (["regionalindicator", "ri"], regionalIndicator),
    (["sentenceterminal", "sterm"], sentenceTerminal),
    (["sd", "softdotted"], softDotted),
    (["term", "terminalpunctuation"], terminalPunctuation),
    (["uideo", "unifiedideograph"], unifiedIdeograph),
    (["upper", "uppercase"], uppercase),
    (["variationselector", "vs"], variationSelector),
    (["space", "whitespace", "wspace"], whiteSpace),
    (["xidc", "xidcontinue"], xidContinue),
    (["xids", "xidstart"], xidStart)]

/-- What a list of named sets has for a name. -/
def findSet? (name : String) (sets : List (List String × CharSet)) : Option CharSet :=
  (sets.find? fun s => s.1.contains name).map (·.2)

/-- The characters of a category, or of a group of categories. -/
def category? : String → Option CharSet
  | "any" => some .all
  | "assigned" => some (Category.set [.cn]).compl
  | "ascii" => some (.range '\x00' '\x7f')
  | name => (Category.groups.find? fun g => g.1.contains name).map fun g => Category.set g.2

/-- The characters that a name alone asks for. -/
def named? (name : String) : Option CharSet :=
  let n := plainName name
  ((findSet? n binaries).orElse fun _ => category? n).orElse fun _ => script? n

/-- The characters for which a property has a value. -/
def valued? (property value : String) : Option CharSet :=
  let v := plainName value
  match plainName property with
  | "gc" | "generalcategory" => category? v
  | "sc" | "script" => script? v
  | "scx" | "scriptextensions" => scriptExtensions? v
  | "age" => age? v
  | "gcb" | "graphemeclusterbreak" => findSet? v graphemeBreaks
  | "wb" | "wordbreak" => findSet? v wordBreaks
  | "sb" | "sentencebreak" => findSet? v sentenceBreaks
  | _ => none

end PaneRunner.Unicode
