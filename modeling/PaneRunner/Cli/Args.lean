import PaneRunner.Cli.Scan
import PaneRunner.Duration

/-
  The commands, and the command lines that ask for them. The options that say where the
  multiplexer lives may stand before the command or after it; what stands after it counts first.
-/
namespace PaneRunner.Cli

/-- What a command line asks for. -/
inductive Command where
  /-- list the sessions -/
  | sessions
  /-- list the windows of a session -/
  | windows (session : String)
  /-- make a session or a window -/
  | create (session : String) (window : Option String)
  /-- remove a session or a window -/
  | delete (session : String) (window : Option String)
  /-- remove a session or a window, then make it -/
  | recreate (session : String) (window : Option String)
  /-- print what a window shows, or its last lines -/
  | view (session window : String) (lines : Option Nat)
  /-- type into a window -/
  | sendKeys (session window : String) (tokens : List String)
  /-- wait until what a window shows matches a regular expression -/
  | waitFor (session window regex : String) (timeout : Duration)
  /-- run a command in a window -/
  | run (session window : String) (acceptAny json : Bool) (argv : List String)
  deriving DecidableEq, Repr

structure Args where
  command : Command
  config : Option String := none
  ssh : Option String := none
  container : Option String := none
  tmuxBin : Option String := none
  deriving DecidableEq, Repr

/-- A number of lines. -/
def lineCount? (s : String) : Option Nat := Text.Decimal.unsigned? (1 <<< 64) s.toList

/-- A time limit, which must be longer than nothing. -/
def timeLimit? (s : String) : Option Duration := (Duration.parse? s).filter (· ≠ .zero)

/-- The time limit without any other. -/
def defaultLimit : Duration := .ofSecs 2

/-- An option with a value. -/
def valued (name : String) (letter : Option Char := none)
    (accepts : String → Bool := fun _ => true) : Switch :=
  { name, letter, role := .value accepts }

/-- The options that may stand anywhere. -/
def everywhere : List Switch :=
  [valued "config" (some 'c'), valued "ssh", valued "container", valued "tmux-bin",
    { name := "help", letter := some 'h', role := .help }]

/-- The options that exclude each other. -/
def exclusive : List (String × String) := [("ssh", "container")]

def commandNames : List String :=
  ["sessions", "windows", "create", "delete", "recreate", "show", "send-keys", "wait-for", "run"]

/-- The name that asks for help. -/
def helpName : String := "help"

/-- What may stand before the command. -/
def topLevel : Level :=
  { switches := everywhere ++ [{ name := "version", letter := some 'V', role := .version }]
    commands := helpName :: commandNames
    exclusive }

/-- The options of a command. -/
def commandSwitches : String → List Switch
  | "show" => [valued "lines" none fun v => (lineCount? v).isSome]
  | "wait-for" => [valued "timeout" none fun v => (timeLimit? v).isSome]
  | "run" => [{ name := "allow-all-exit-codes", role := .flag }, { name := "json", role := .flag }]
  | _ => []

/-- The operands of a command. -/
def commandOperands : String → List Operand
  | "sessions" => []
  | "windows" => [⟨"session", .one⟩]
  | "send-keys" => [⟨"session", .one⟩, ⟨"window", .one⟩, ⟨"tokens", .rest⟩]
  | "wait-for" => [⟨"session", .one⟩, ⟨"window", .one⟩, ⟨"regex", .one⟩]
  | "run" => [⟨"session", .one⟩, ⟨"window", .one⟩, ⟨"argv", .separated⟩]
  | _ => [⟨"session", .one⟩, ⟨"window", .one⟩]

/-- What may stand after the name of a command. -/
def commandLevel (name : String) : Level :=
  { switches := everywhere ++ commandSwitches name, operands := commandOperands name, exclusive }

namespace Given

variable (g : Given)

/-- All values of a name. -/
def all (name : String) : List String := g.filterMap fun p => if p.1 = name then some p.2 else none

/-- All values of a name, of which there must be one. -/
def some? (name : String) : Option (List String) :=
  if Given.all g name = [] then none else some (Given.all g name)

/-- Whether there is a value of the name. -/
def has (name : String) : Bool := (g.lookup name).isSome

end Given

/-- The command of a name with what was given for it; `none` if an operand is missing. -/
def Command.ofGiven? (name : String) (g : Given) : Option Command :=
  match name with
  | "sessions" => some .sessions
  | "windows" => do pure (.windows (← g.lookup "session"))
  | "create" => do pure (.create (← g.lookup "session") (g.lookup "window"))
  | "delete" => do pure (.delete (← g.lookup "session") (g.lookup "window"))
  | "recreate" => do pure (.recreate (← g.lookup "session") (g.lookup "window"))
  | "show" => do
    pure (.view (← g.lookup "session") (← g.lookup "window") ((g.lookup "lines").bind lineCount?))
  | "send-keys" => do
    pure (.sendKeys (← g.lookup "session") (← g.lookup "window") (← Given.some? g "tokens"))
  | "wait-for" => do
    pure (.waitFor (← g.lookup "session") (← g.lookup "window") (← g.lookup "regex")
      (((g.lookup "timeout").bind timeLimit?).getD defaultLimit))
  | "run" => do
    pure (.run (← g.lookup "session") (← g.lookup "window")
      (Given.has g "allow-all-exit-codes") (Given.has g "json") (← Given.some? g "argv"))
  | _ => none

/-- A request for help, perhaps on a command. -/
def helpOn : List String → Refusal
  | [] => .help
  | [name] => if topLevel.commands.contains name then .help else .unknownCommand
  | _ => .unknownCommand

/-- The refusal of a command line without a command. -/
def withoutCommand (st : State) : Refusal :=
  match st.settle with
  | .error e => e
  | .ok st => if st.given.isEmpty then .nothing else .noCommand

/-- Read the words of a command line. -/
def Args.ofWords (words : List String) : Except Refusal Args := do
  match ← topLevel.scan words {} with
  | (st, none) => throw (withoutCommand st)
  | (st, some (name, rest)) =>
    if name = helpName then throw (helpOn rest)
    let lv := commandLevel name
    let inner ← lv.finish (← lv.scan rest {}).1
    match Command.ofGiven? name inner with
    | none => throw .missingArgument
    | some command =>
      let g := inner ++ (← topLevel.finish st)
      pure {
        command
        config := g.lookup "config"
        ssh := g.lookup "ssh"
        container := g.lookup "container"
        tmuxBin := g.lookup "tmux-bin" }

end PaneRunner.Cli
