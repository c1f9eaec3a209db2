import PaneRunner.Text.Pieces

/-
  Writing words for a POSIX shell. A word of safe characters stands bare; any other is put in
  single quotes, where only the single quote itself needs an escape.
-/
namespace PaneRunner.Shell

/-- Characters that no shell reads as anything but themselves. -/
def isSafeChar (c : Char) : Bool :=
  c.isAlphanum || c == '-' || c == '_' || c == '.' || c == '/' || c == ',' || c == ':' ||
    c == '+' || c == '@' || c == '%'

/-- A character between single quotes; a quote closes them, stands escaped, and opens them. -/
def quoteChar (c : Char) : List Char :=
  if c = '\x27' then ['\x27', '\x5c', '\x27', '\x27'] else [c]

/-- A word in single quotes. -/
def quoteWord (cs : List Char) : List Char := '\x27' :: (cs.flatMap quoteChar ++ ['\x27'])

/-- A word that may stand without quotes. -/
def isBare (cs : List Char) : Bool := !cs.isEmpty && cs.all isSafeChar

/-- A word as it is written in a command line. -/
def writeWord (cs : List Char) : List Char := if isBare cs then cs else quoteWord cs

/-- A text in single quotes. -/
def quote (s : String) : String := .ofList (quoteWord s.toList)

/-- One command line for an argument vector. -/
def join (argv : List String) : String :=
  .ofList (Text.joinWith [' '] (argv.map fun a => writeWord a.toList))

end PaneRunner.Shell
