import PaneRunner.Regex.Footprint.Classes
import PaneRunner.Regex.Footprint.Trie

/-
  Whether the automata of a pattern stay within the limit. There are two of them, one that reads
  the text forward and one that reads it backward; only the first one keeps where groups start and
  end.
-/
namespace PaneRunner.Regex

namespace Footprint

mutual

/-- The part for a pattern. -/
def part (d : Direction) : Reduced → Part
  | .empty | .look _ => single
  | .text cs => do
    grow (String.ofList cs).utf8ByteSize 0
    pure .plain
  | .chars s => charsPart d s
  | .repeat body times _ => repeated (part d body) (body.minLength.any (0 < ·)) times
  | .group body =>
    match d with
    | .forward => captured (part d body)
    | .backward => part d body
  | .seq ps => chain (d.order (parts d ps))
  | .alt ps =>
    match ps.mapM Reduced.text? with
    | some texts => trie (texts.map fun cs => d.order (Text.Utf8.encode (.ofList cs)))
    | none => choose (parts d ps)

/-- The parts for some patterns. -/
def parts (d : Direction) : List Reduced → List Part
  | [] => []
  | p :: ps => part d p :: parts d ps

end

/-- The automaton of a pattern. Unless the pattern can match at the edge of the text only, it starts
with a loop over any bytes. -/
def automaton (d : Direction) (p : Reduced) : Making Unit := do
  let edge := match d with
    | .forward => Look.start
    | .backward => Look.finish
  let anchored := p.entersAt d edge
  if anchored then state else grow 3 12
  let exit ← match d with
    | .forward => captured (part d p)
    | .backward => part d p
  state
  exit.link
  if anchored then pure () else way

end Footprint

/-- Whether the automata of a pattern stay within the limit. -/
def Reduced.fits (p : Reduced) : Bool :=
  ((Footprint.automaton .forward p).run {}).isSome &&
  ((Footprint.automaton .backward p).run {}).isSome

end PaneRunner.Regex
