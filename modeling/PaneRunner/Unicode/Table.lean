import PaneRunner.Text.Hex
import PaneRunner.Text.Pieces
import PaneRunner.Unicode.CharSet

/-
  Tables of characters as text. `table` reads ranges of hexadecimal numbers; `runs` reads the keys
  and lengths of runs that cover all code points, and `ofRuns` picks the runs of some keys.
-/
namespace PaneRunner.Unicode

/-- One range: two numbers with a hyphen between, or one number alone. -/
def range? (cs : List Char) : Option (Nat × Nat) :=
  match Text.pieces '-' cs with
  | [a] => (Text.Hex.value? a).map fun n => (n, n)
  | [a, b] => do pure (← Text.Hex.value? a, ← Text.Hex.value? b)
  | _ => none

/-- The characters in the ranges that texts list, a blank between any two. -/
def table (ts : List String) : CharSet :=
  .ofRanges (ts.flatMap fun t => (Text.pieces ' ' t.toList).filterMap range?)

/-- The runs from here on; `key` and `n` are the run being read. -/
def runsFrom (key : Char) (n : Nat) : List Char → List (Char × Nat)
  | [] => [(key, n)]
  | c :: cs =>
    if c.isDigit then runsFrom key (10 * n + (c.toNat - 48)) cs else (key, n) :: runsFrom c 0 cs

/-- The keys and lengths that a text lists. -/
def runs : List Char → List (Char × Nat)
  | [] => []
  | c :: cs => runsFrom c 0 cs

/-- Where runs of some keys start and end; the runs begin at `n`, and `inside` tells whether the
run before them had such a key. -/
def flipsOf (keys : List Char) (inside : Bool) (n : Nat) : List (Char × Nat) → List Nat
  | [] => if inside then [n] else []
  | (key, len) :: rest =>
    if keys.contains key = inside then flipsOf keys inside (n + len) rest
    else n :: flipsOf keys (!inside) (n + len) rest

/-- The characters in the runs of some keys. -/
def ofRuns (keys : List Char) (runs : List (Char × Nat)) : CharSet :=
  (CharSet.ofFlips (flipsOf keys false 0 runs)).inter .all

end PaneRunner.Unicode
