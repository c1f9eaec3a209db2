import PaneRunner.Text.Blank
import PaneRunner.Text.Pieces
import PaneRunner.Text.Search

/-
  What a window shows: the lines of its scrollback without the blank lines below the last one
  that is not blank, and whether a line is an idle prompt.
-/
namespace PaneRunner.Tmux

/-- The arguments that print the whole scrollback of a window, wrapped lines joined. -/
def captureArgs (target : String) : List String :=
  ["capture-pane", "-J", "-p", "-S", "-", "-t", target]

/-- Less the blank lines at the end. -/
def dropBlankTail (ls : List String) : List String := (ls.reverse.dropWhile Text.isBlank).reverse

/-- The lines that a captured text shows. -/
def shownLines (raw : String) : List String := dropBlankTail (Text.lines raw)

/-- The shown lines as one text, each ended by a newline. -/
def shownText (raw : String) : String := Text.unlines (shownLines raw)

/-- The `n`-th line from the bottom, the last being number 0; empty if there is none. -/
def fromBottom (ls : List String) (n : Nat) : String := (ls.reverse[n]?).getD ""

/-- The last `n` lines, or all if there are fewer. -/
def lastLines (ls : List String) (n : Nat) : List String := ls.drop (ls.length - n)

/-- The line endings that make a prompt unless others are configured. -/
def defaultSuffixes : List String := ["$", "#"]

/-- Whether a line is a prompt with nothing typed after it: blanks aside, it ends in one of the
suffixes. -/
def isPrompt (line : String) (suffixes : List String) : Bool :=
  let shown := String.ofList (Text.trimEnd line.toList)
  !shown.isEmpty && suffixes.any fun x => !x.isEmpty && Text.endsWith shown x

end PaneRunner.Tmux
