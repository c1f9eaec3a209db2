import PaneRunner.Text.Hex
import PaneRunner.Text.Utf8
import PaneRunner.Unicode.Newer

/-
  Bytes as quoted text that shows what they are. A character that cannot be seen, or that joins the
  one before it, is written as its number; a byte that is part of no character is written as two
  digits.
-/
namespace PaneRunner.Text.Quoted

/-- What stands between the quotation marks for a character. -/
def char (c : Char) : List Char :=
  match c with
  | '\x00' => ['\x5c', '0']
  | '\t' => ['\x5c', 't']
  | '\n' => ['\x5c', 'n']
  | '\r' => ['\x5c', 'r']
  | '"' => ['\x5c', '"']
  | '\x5c' => ['\x5c', '\x5c']
  | c =>
    if Unicode.extending.contains c || Unicode.unshown.contains c then
      ['\x5c', 'u', '\x7b'] ++ Hex.ofNat c.toNat ++ ['\x7d']
    else [c]

/-- What stands there for a byte that is part of no character. -/
def byte (b : UInt8) : List Char := ['\x5c', 'x'] ++ (Hex.byte b).toList.map Char.toUpper

/-- A byte sequence as quoted text. -/
def ofBytes (bs : Bytes) : String :=
  let piece : Except Bytes Char → List Char
    | .ok c => char c
    | .error fault => fault.flatMap byte
  .ofList ('"' :: (Utf8.scan bs).flatMap piece ++ ['"'])

end PaneRunner.Text.Quoted
