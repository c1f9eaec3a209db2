import PaneRunner.Text.Hex
import PaneRunner.Text.Pieces

/-
  JSON strings. Quotation marks, backslashes and control characters are escaped; every other
  character stands for itself.
-/
namespace PaneRunner.Text.Json

/-- A character inside a JSON string. -/
def escape (c : Char) : List Char :=
  if c = '\x22' then ['\x5c', '\x22']
  else if c = '\x5c' then ['\x5c', '\x5c']
  else if c = '\x08' then ['\x5c', 'b']
  else if c = '\x09' then ['\x5c', 't']
  else if c = '\x0a' then ['\x5c', 'n']
  else if c = '\x0c' then ['\x5c', 'f']
  else if c = '\x0d' then ['\x5c', 'r']
  else if c.toNat < 32 then
    ['\x5c', 'u', '0', '0', Hex.digit (c.toNat / 16), Hex.digit (c.toNat % 16)]
  else [c]

/-- A text as a JSON string. -/
def quote (s : String) : String := .ofList ('\x22' :: (s.toList.flatMap escape ++ ['\x22']))

/-- An object with one field a line, two blanks deep; the values are JSON already. -/
def object (fields : List (String × String)) : String :=
  let line (f : String × String) : String := "\n  " ++ quote f.1 ++ ": " ++ f.2
  "\x7b" ++ Text.join "," (fields.map line) ++ "\n\x7d"

end PaneRunner.Text.Json
