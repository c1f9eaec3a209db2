import PaneRunner.Exec.Request
import PaneRunner.Text.Search
import PaneRunner.Tmux.Error
import PaneRunner.Tmux.Screen

/-
  The end marker. The line typed for a command has a second part that prints the marker and the
  exit code on a line of their own, so both the screen and the capture file tell when the command
  has ended. `readCapture` takes a capture file apart: the echo of the typed line, the output,
  the marker line.
-/
namespace PaneRunner.Tmux

/-- The marker unless another is configured. -/
def defaultMarker : String := "TMUXDRIVE_COMMAND_EXIT_CODE"

/-- What stands between the command and the marker in the typed line. -/
def markerCommand : String := "; printf '\\n%s %s\\n' "

/-- The line to type: the command, then the marker with the command's exit code. -/
def commandLine (argv : List String) (marker : String) : String :=
  Shell.join argv ++ markerCommand ++ Shell.quote marker ++ " \"$?\""

/-- The shell command that appends what a pane prints to a file. -/
def appendTo (path : String) : String := "cat >> " ++ Shell.quote path

/-- Whether the marker starts the last line shown or the one before it. -/
def showsMarker (ls : List String) (marker : String) : Bool :=
  Text.startsWith (fromBottom ls 0) marker || Text.startsWith (fromBottom ls 1) marker

/-- Less one carriage return at the end. -/
def stripReturn (line : Bytes) : Bytes := if line.getLast? = some 13 then line.dropLast else line

/-- A captured line that starts with the marker. -/
def isMarkerLine (marker : String) (line : Bytes) : Bool :=
  (Text.dropStart? (Text.Utf8.encode marker) (stripReturn line)).isSome

/-- Whether a capture file holds a marker line below the echo. -/
def holdsMarker (ls : List Bytes) (marker : String) : Bool := (ls.drop 1).any (isMarkerLine marker)

/-- The exit code on a marker line: the marker, a blank, and a number. -/
def exitCode (line marker : String) : Except Error Int32 :=
  let code? : Option Int := do
    let rest ← Text.stripStart? line marker
    if Text.startsWith rest " " then Text.Decimal.signed? (1 <<< 31) (Text.trim rest).toList else none
  match code? with
  | some code => .ok (.ofInt code)
  | none => .error (.exitCodeParse line)

/-- What follows the first carriage return, or all of it if there is none. Shells print terminal
controls that end in one when a line is entered. -/
def afterReturn (line : Bytes) : Bytes :=
  match Text.cutAt? [13] line with
  | some (_, rest) => rest
  | none => line

/-- What a capture file tells about a command. -/
structure Capture where
  stdout : Bytes
  code : Int32
  deriving DecidableEq, Repr

/-- Take the lines of a capture file apart at the last marker line. The line above the output is
the echo; what stands below the marker line does not count. -/
def readCapture (ls : List Bytes) (marker : String) : Except Error Capture :=
  match ls with
  | [] | [_] =>
    .error (.captureFormat
      ("expected at least 2 captured lines, got " ++ Text.Decimal.ofNat ls.length))
  | _ :: body =>
    match body.reverse.dropWhile fun line => !isMarkerLine marker line with
    | [] =>
      .error (.captureFormat ("end marker `" ++ marker ++ "` not found in " ++
        Text.Decimal.ofNat ls.length ++ " captured lines"))
    | last :: above => do
      let code ← exitCode (Text.Utf8.decode (stripReturn last)) marker
      match above.reverse.map stripReturn with
      | [] => .error (.captureFormat "no output lines between echoed input and end marker")
      | first :: more => .ok { stdout := Text.joinWith [10] (afterReturn first :: more), code }

end PaneRunner.Tmux
