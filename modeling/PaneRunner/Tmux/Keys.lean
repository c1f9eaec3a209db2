import PaneRunner.Text.Hex
import PaneRunner.Text.Search
import PaneRunner.Text.Utf8

/-
  Tokens to type. A token that names a key, or a key with a modifier, is passed on by that name;
  any other token is text and travels as its UTF-8 bytes in hexadecimal.
-/
namespace PaneRunner.Tmux

/-- The keys that have a name. -/
def namedKeys : List String :=
  ["enter", "Enter", "Escape", "Tab", "BSpace", "Space", "Up", "Down", "Left", "Right", "Home",
    "End", "PageUp", "PageDown", "PPage", "NPage", "F1", "F2", "F3", "F4", "F5", "F6", "F7", "F8",
    "F9", "F10", "F11", "F12"]

/-- The characters that a modifier can go with. -/
def isChordChar (c : Char) : Bool :=
  c.isAlphanum || c == '[' || c == ']' || c == '\x5c' || c == '/' || c == '@' || c == '^' ||
    c == '_' || c == '?' || c == ' '

/-- A modifier, a hyphen and one character. -/
def isChord (token : String) : Bool :=
  match token.toList with
  | [m, '-', c] => (m == 'C' || m == 'M' || m == 'S') && isChordChar c
  | _ => false

/-- Whether a token names a key. -/
def isKey (token : String) : Bool := namedKeys.contains token || isChord token

/-- The bytes of a text, each as two hexadecimal digits. -/
def hexBytes (text : String) : List String := (Text.Utf8.encode text).map Text.Hex.byte

/-- The arguments that type one token into a window. -/
def keyArgs (target token : String) : List String :=
  ["send-keys", "-t", target] ++ if isKey token then [token] else "-H" :: hexBytes token

end PaneRunner.Tmux
