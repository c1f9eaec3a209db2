import PaneRunner.Regex.Footprint.Build
import PaneRunner.Text.Utf8

/-
  A choice between texts, as a trie of their bytes. The texts are tried in their order, so where
  one ends, the branches of later texts stand apart from those of earlier ones: the ends cut the
  texts that share a start into chunks. `trie` builds one state for each chunk and a fork before
  them wherever texts go on.
-/
namespace PaneRunner.Regex.Footprint

/-- The texts between ends; an end is an empty text. -/
def splitEnds : List Bytes → List (List Bytes)
  | [] => [[]]
  | [] :: rest => [] :: splitEnds rest
  | bytes :: rest =>
    match splitEnds rest with
    | [] => [[bytes]]
    | chunk :: later => (bytes :: chunk) :: later

/-- The chunks of the texts that go on from a place. Ends before the first text that goes on count
as one. -/
def chunks : List Bytes → List (List Bytes)
  | [] :: rest => [] :: splitEnds (rest.dropWhile List.isEmpty)
  | texts => splitEnds texts

/-- What follows the byte `b` in the texts that start with it. -/
def after (b : UInt8) (texts : List Bytes) : List Bytes :=
  texts.filterMap fun bytes => if bytes.head? = some b then some bytes.tail else none

/-- What follows each byte that some text starts with. -/
def branches (chunk : List Bytes) : List (List Bytes) :=
  (chunk.filterMap List.head?).eraseDups.map fun b => after b chunk

/-- The states for texts of `length` bytes at most that go on from one place. -/
def trieNode : Nat → List Bytes → Making Unit
  | 0, _ => pure ()
  | length + 1, texts =>
    if texts.all List.isEmpty then pure ()
    else do
      let cs := chunks texts
      let filled := (cs.map branches).filter fun bs => !bs.isEmpty
      filled.forM fun bs => do
        bs.forM (trieNode length)
        grow 1 (if bs.length = 1 then 0 else 8 * bs.length)
      grow 1 (4 * (filled.length + (cs.length - 1)))

/-- A choice between texts. -/
def trie (texts : List Bytes) : Part := do
  state
  trieNode (texts.foldl (fun n bytes => max n bytes.length) 0) texts
  pure .plain

end PaneRunner.Regex.Footprint
