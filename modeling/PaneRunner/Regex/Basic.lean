import PaneRunner.Regex.Footprint.Basic
import PaneRunner.Regex.Mode
import PaneRunner.Regex.Parse
import PaneRunner.Text.Decimal

/-
  Regular expressions: a pattern is read, its flags are worked into a reduced form, and the
  expression of that is searched for. A pattern is refused if it is malformed, asks for a property
  that does not exist, could match bytes that are no text, or is too large.
-/
namespace PaneRunner

namespace Regex

mutual

/-- The reduced form of a pattern, and the flags in force after it. Flags last to the end of the
group in which they are set. -/
def meaning (m : Mode) : Syntax → Option (Reduced × Mode)
  | .empty => some (.empty, m)
  | .flags settings => some (.empty, settings.foldl Mode.assign m)
  | .literal l => if m.isRawByte l then none else some (.ofChars (m.fold (.single l.char)), m)
  | .dot => m.dot.map fun s => (.ofChars s, m)
  | .assertion kind => some (.look (m.look kind), m)
  | .unicode query negated => (m.unicodeSet query negated).map fun s => (.ofChars s, m)
  | .perl kind negated => (m.perlSet kind negated).map fun s => (.ofChars s, m)
  | .bracketed items negated => do
    let s ← m.finish negated (m.fold (← m.set items))
    pure (.ofChars s, m)
  | .repetition body times greedy => do
    let (p, m) ← meaning m body
    pure (.ofRepeat p times (greedy != m.swapGreed), m)
  | .group captures settings body => do
    let (p, _) ← meaning (settings.foldl Mode.assign m) body
    pure (if captures then .group p else p, m)
  | .sequence parts => do
    let (ps, m) ← meanings m parts
    pure (.ofSeq ps, m)
  | .alternation parts => do
    let (ps, m) ← meanings m parts
    pure (.ofAlt ps, m)

/-- The reduced forms of some patterns that stand one after another. -/
def meanings (m : Mode) : List Syntax → Option (List Reduced × Mode)
  | [] => some ([], m)
  | part :: parts => do
    let (p, m) ← meaning m part
    let (ps, m) ← meanings m parts
    pure (p :: ps, m)

end

end Regex

/-- A regular expression, with the text it was read from. -/
structure Regex where
  source : String
  pattern : Regex.Pattern

namespace Regex

/-- Why a text is no regular expression. -/
inductive Fault where
  | malformed
  | tooLarge
  deriving DecidableEq, Repr

/-- The text of a fault. -/
def Fault.message : Fault → String
  | .malformed => "regex parse error:"
  | .tooLarge =>
    "Compiled regex exceeds size limit of " ++ Text.Decimal.ofNat Footprint.limit ++ " bytes."

/-- The regular expression that a text writes down. -/
def ofString (source : String) : Except Fault Regex :=
  match (parse? source).bind (meaning {}) with
  | none => .error .malformed
  | some (p, _) => if p.fits then .ok { source, pattern := p.expr } else .error .tooLarge

/-- Whether some part of a text matches. -/
def isMatch (r : Regex) (text : String) : Bool := r.pattern.search text.toList

end Regex

end PaneRunner
