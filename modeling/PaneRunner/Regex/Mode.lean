import PaneRunner.Regex.Classes
import PaneRunner.Regex.Expr
import PaneRunner.Unicode.Folding

/-
  What the parts of a pattern mean under the flags in force: the set of a class, the condition of
  an assertion. A class may be refused, where a property does not exist or a byte is no text.
-/
namespace PaneRunner.Regex

/-- The flags that change what a pattern means. -/
structure Mode where
  ignoreCase : Bool := false
  multiLine : Bool := false
  dotNewline : Bool := false
  swapGreed : Bool := false
  unicode : Bool := true
  crlf : Bool := false

/-- One flag set. Layout does not change what a pattern means. -/
def Mode.assign (m : Mode) : Flag × Bool → Mode
  | (.ignoreCase, v) => { m with ignoreCase := v }
  | (.multiLine, v) => { m with multiLine := v }
  | (.dotNewline, v) => { m with dotNewline := v }
  | (.swapGreed, v) => { m with swapGreed := v }
  | (.unicode, v) => { m with unicode := v }
  | (.crlf, v) => { m with crlf := v }
  | (.extended, _) => m

/-- The complement, if asked for. -/
def negateIf (negated : Bool) (s : CharSet) : CharSet := if negated then s.compl else s

namespace Mode

variable (m : Mode)

/-- With the other case of the letters, if case does not count. -/
def fold (s : CharSet) : CharSet :=
  if m.ignoreCase then if m.unicode then Unicode.folded s else Unicode.foldedAscii s else s

/-- A finished set; over bytes it may hold ASCII characters only. -/
def finish (negated : Bool) (s : CharSet) : Option CharSet :=
  let s := negateIf negated s
  if m.unicode || s.isAscii then some s else none

/-- Whether a literal is a byte that is no text by itself. -/
def isRawByte (l : Literal) : Bool := !m.unicode && l.byte && decide (127 < l.char.toNat)

/-- A literal inside brackets; a class of bytes has ASCII characters only. -/
def setLiteral (l : Literal) : Option Char :=
  if m.unicode || decide (l.char.toNat < 128) then some l.char else none

/-- A Unicode class. To lack a value, negated, is to have it. -/
def unicodeSet (query : UnicodeQuery) (negated : Bool) : Option CharSet :=
  if m.unicode then
    query.chars?.map fun s => negateIf (negated != query.lacks) (m.fold s)
  else none

/-- A class of one letter. -/
def perlSet (kind : PerlClass) (negated : Bool) : Option CharSet :=
  m.finish negated (kind.chars m.unicode)

mutual

/-- The set of the items of a class. -/
def set : SetSyntax → Option CharSet
  | .empty => some .empty
  | .literal l => (m.setLiteral l).map .single
  | .range low high => do pure (.range (← m.setLiteral low) (← m.setLiteral high))
  | .ascii kind negated => m.finish negated (m.fold kind.chars)
  | .unicode query negated => m.unicodeSet query negated
  | .perl kind negated => m.perlSet kind negated
  | .bracketed items negated => do m.finish negated (m.fold (← set items))
  | .union items => (sets items).map CharSet.unions
  | .operation op left right => do pure (op.apply (m.fold (← set left)) (m.fold (← set right)))

/-- The sets of some items. -/
def sets : List SetSyntax → Option (List CharSet)
  | [] => some []
  | item :: items => do pure ((← set item) :: (← sets items))

end

/-- The condition of an assertion. -/
def look : Assertion → Look
  | .lineStart => if m.multiLine then .lineStart m.crlf else .start
  | .lineEnd => if m.multiLine then .lineEnd m.crlf else .finish
  | .textStart => .start
  | .textEnd => .finish
  | .wordBoundary => .boundary m.unicode
  | .notWordBoundary => .notBoundary m.unicode
  | .wordStart => .wordStart m.unicode
  | .wordEnd => .wordEnd m.unicode
  | .wordStartHalf => .wordStartHalf m.unicode
  | .wordEndHalf => .wordEndHalf m.unicode

/-- The characters that a dot stands for; over bytes it could be any byte. -/
def dot : Option CharSet :=
  if !m.unicode then none
  else if m.dotNewline then some .all
  else if m.crlf then some (CharSet.union (.single '\n') (.single '\r')).compl
  else some (CharSet.single '\n').compl

end Mode

end PaneRunner.Regex
