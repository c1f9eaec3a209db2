/-
  Writing a text so that a regular expression matches it and nothing else.
-/
namespace PaneRunner.Regex

/-- Characters that a backslash makes literal everywhere in a pattern. -/
def metaChars : List Char :=
  ['\x5c', '.', '+', '*', '?', '(', ')', '|', '[', ']', '\x7b', '\x7d', '^', '$', '#', '&', '-', '~']

/-- A pattern for the text itself. -/
def escape (s : String) : String :=
  .ofList (s.toList.flatMap fun c => if metaChars.contains c then ['\x5c', c] else [c])

end PaneRunner.Regex
