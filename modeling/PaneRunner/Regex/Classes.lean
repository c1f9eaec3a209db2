import PaneRunner.Regex.Syntax
import PaneRunner.Unicode.Property

/-
  The sets that classes stand for. A class of one letter is larger over all characters than over
  ASCII; a class with a name between colons is in ASCII always.
-/
namespace PaneRunner.Regex

/-- A class with a name between colons. -/
def AsciiClass.chars : AsciiClass → CharSet
  | .alnum => .unions [.range '0' '9', .range 'A' 'Z', .range 'a' 'z']
  | .alpha => .unions [.range 'A' 'Z', .range 'a' 'z']
  | .ascii => .range '\x00' '\x7f'
  | .blank => .unions [.single '\t', .single ' ']
  | .cntrl => .unions [.range '\x00' '\x1f', .single '\x7f']
  | .digit => .range '0' '9'
  | .graph => .range '!' '~'
  | .lower => .range 'a' 'z'
  | .print => .range ' ' '~'
  | .punct => .unions [.range '!' '/', .range ':' '@', .range '[' '\x60', .range '\x7b' '~']
  | .space => .unions [.range '\t' '\r', .single ' ']
  | .upper => .range 'A' 'Z'
  | .word => .unions [.range '0' '9', .range 'A' 'Z', .single '_', .range 'a' 'z']
  | .xdigit => .unions [.range '0' '9', .range 'A' 'F', .range 'a' 'f']

/-- A class of one letter, over all characters or over ASCII alone. -/
def PerlClass.chars (unicode : Bool) : PerlClass → CharSet
  | .digit => if unicode then Unicode.digits else AsciiClass.digit.chars
  | .space => if unicode then Unicode.whiteSpace else AsciiClass.space.chars
  | .word => if unicode then Unicode.wordChars else AsciiClass.word.chars

/-- Two sets combined. -/
def SetOperator.apply : SetOperator → CharSet → CharSet → CharSet
  | .intersection => .inter
  | .difference => .diff
  | .symmetricDifference => .symmDiff

/-- The characters that have what is asked for, or, where it is asked for as lacking, that have
it all the same. -/
def UnicodeQuery.chars? : UnicodeQuery → Option CharSet
  | .named name => Unicode.named? name
  | .valued property value | .unlike property value => Unicode.valued? property value

/-- Whether a query asks for the characters that lack something. -/
def UnicodeQuery.lacks : UnicodeQuery → Bool
  | .unlike _ _ => true
  | _ => false

end PaneRunner.Regex
