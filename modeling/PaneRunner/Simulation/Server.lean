import PaneRunner.Exec.Request
import PaneRunner.Simulation.Shell
import PaneRunner.Tmux.Marker

/-
  A terminal multiplexer in memory. It has sessions, windows and capture files, plays the shell
  of `Simulation.Shell` in every window, and can be told to fail, to finish commands late and to
  write capture files late. A subcommand that ends with a non-zero exit code is refused: `refuse`
  leaves the server as it is.
-/
namespace PaneRunner.Simulation

/-- A window: the lines of its pane, what was typed since the last Enter, and the file that its
output goes to. -/
structure Window where
  name : String
  pane : List String := ["$ "]
  input : String := ""
  pipe : Option String := none
  deriving DecidableEq

structure Session where
  name : String
  windows : List Window
  deriving DecidableEq

/-- The output of a command that has not reached the pane yet. -/
structure Pending where
  /-- the window, as it was addressed when the command was typed -/
  address : String
  pollsLeft : Nat
  paneLines : List String
  capture : String

/-- Capture bytes that have not reached their file yet. -/
structure Delayed where
  path : String
  readsLeft : Nat
  content : Bytes

/-- An instruction to fail the next call of a subcommand. -/
structure Failure where
  subcommand : String
  code : Int32
  stderr : String

structure Server where
  running : Bool := true
  sessions : List Session := []
  /-- the argument vectors of all calls, the latest first -/
  calls : List (List String) := []
  failures : List Failure := []
  files : List (String × Bytes) := []
  filesMade : Nat := 0
  fileReads : Nat := 0
  /-- for how many reads a capture file stays behind -/
  captureDelay : Nat := 0
  delayed : Option Delayed := none
  /-- what a pane shows when a line without an end marker is entered -/
  responder : String → List String := fun _ => ["$ "]
  /-- the exit code of every command -/
  exitCode : Int32 := 0
  /-- for how many looks at its pane a command keeps running -/
  completionDelay : Nat := 0
  /-- the capture file lines of every command, instead of the real ones -/
  captureOverride : Option (List String) := none
  pending : Option Pending := none

namespace Server

/-- Change the first element that `p` accepts. -/
def modifyFirst {α : Type} (p : α → Bool) (f : α → α) : List α → List α
  | [] => []
  | a :: as => if p a then f a :: as else a :: modifyFirst p f as

/-- The value after the first `flag` in the arguments. -/
def flagValue? (args : List String) (flag : String) : Option String :=
  match args.dropWhile (· != flag) with
  | _ :: value :: _ => some value
  | _ => none

/-- The session and the window that an address names; an equals sign before the window name is
not part of it. -/
def parseAddress? (address : String) : Option (String × String) :=
  (Text.splitOnce? address ":").map fun (s, w) => (s, (Text.stripStart? w "=").getD w)

variable (server : Server)

def session? (name : String) : Option Session := server.sessions.find? fun s => s.name == name

/-- The window at an address. -/
def window? (address : String) : Option Window := do
  let (s, w) ← parseAddress? address
  (← server.session? s).windows.find? fun x => x.name == w

/-- Change the first session of a name. -/
def onSession (name : String) (f : Session → Session) : Server :=
  { server with sessions := modifyFirst (fun s => s.name == name) f server.sessions }

/-- Change the window at an address. -/
def onWindow (address : String) (f : Window → Window) : Server :=
  match parseAddress? address with
  | some (s, w) =>
    server.onSession s fun x => { x with windows := modifyFirst (fun y => y.name == w) f x.windows }
  | none => server

/-- The content of a file. -/
def file? (path : String) : Option Bytes := server.files.lookup path

/-- Append to a file that is there. -/
def appendFile (path : String) (content : Bytes) : Server :=
  { server with
    files := server.files.map fun (p, bs) => if p = path then (p, bs ++ content) else (p, bs) }

/-- A subcommand went well. -/
def accept (stdout : String) : Exec.Output × Server :=
  ({ stdout := Text.Utf8.encode stdout }, server)

/-- A subcommand was refused. -/
def refuse (stderr : String) : Exec.Output × Server :=
  ({ stderr := Text.Utf8.encode stderr, code := 1 }, server)

/-- The listing's line for a session. -/
def sessionLine (s : Session) : String :=
  s.name ++ ": " ++ Text.Decimal.ofNat s.windows.length ++
    " windows (created Fri Oct 16 09:00:00 2026)"

def listSessions : Exec.Output × Server :=
  if !server.running || server.sessions.isEmpty then
    server.refuse "no server running on /tmp/tmux-1000/default\n"
  else server.accept (Text.unlines (server.sessions.map sessionLine))

def newSession (args : List String) : Exec.Output × Server :=
  match flagValue? args "-s" with
  | none => server.refuse "new-session: missing -s\n"
  | some name =>
    if (server.session? name).isSome then server.refuse ("duplicate session: " ++ name ++ "\n")
    else
      let window : Window := { name := (flagValue? args "-n").getD "bash" }
      { server with
        running := true
        sessions := server.sessions ++ [{ name, windows := [window] }] : Server }.accept ""

/-- What is said of a session that is not there. -/
def noSession (name : String) : String := "can't find session: " ++ name ++ "\n"

/-- What is said of a window that is not there. -/
def noWindow (name : String) : String := "can't find window: " ++ name ++ "\n"

/-- What is said of a pane that is not there. -/
def noPane (address : String) : String := "can't find pane: " ++ address ++ "\n"

/-- Without the colons at the end. -/
def trimColons (s : String) : String :=
  .ofList ((s.toList.reverse.dropWhile (· == ':')).reverse)

def newWindow (args : List String) : Exec.Output × Server :=
  let name := trimColons ((flagValue? args "-t").getD "")
  match flagValue? args "-n", server.session? name with
  | none, _ => server.refuse "new-window: missing -n\n"
  | some _, none => server.refuse (noSession name)
  | some window, some _ =>
    (server.onSession name fun s => { s with windows := s.windows ++ [{ name := window }] }).accept ""

def killSession (args : List String) : Exec.Output × Server :=
  let name := (flagValue? args "-t").getD ""
  match server.session? name with
  | none => server.refuse (noSession name)
  | some _ =>
    { server with sessions := server.sessions.filter fun s => s.name != name : Server }.accept ""

/-- A session without its windows of a name. -/
def withoutWindow (s : Session) (name : String) : Session :=
  { s with windows := s.windows.filter fun w => w.name != name }

/-- A session goes with its last window. -/
def killWindow (args : List String) : Exec.Output × Server :=
  let address := (flagValue? args "-t").getD ""
  match parseAddress? address with
  | none => server.refuse (noWindow address)
  | some (sessionName, name) =>
    match server.session? sessionName with
    | none => server.refuse (noSession sessionName)
    | some s =>
      let rest := withoutWindow s name
      if rest.windows.length = s.windows.length then server.refuse (noWindow name)
      else if rest.windows.isEmpty then
        { server with
          sessions := server.sessions.filter fun s => s.name != sessionName : Server }.accept ""
      else (server.onSession sessionName fun _ => rest).accept ""

def listWindows (args : List String) : Exec.Output × Server :=
  let name := (flagValue? args "-t").getD ""
  match server.session? name with
  | none => server.refuse (noSession name)
  | some s => server.accept (Text.unlines (s.windows.map Window.name))

/-- The text with `more` at the end of the last line; a pane without lines stays so. -/
def extendLast (pane : List String) (more : String) : List String :=
  match pane.getLast? with
  | some l => pane.dropLast ++ [l ++ more]
  | none => []

/-- The command has ended: its output reaches the pane, and the file the pane is piped to. -/
def complete (p : Pending) : Server :=
  match server.window? p.address with
  | none => server
  | some w =>
    let server := server.onWindow p.address fun w => { w with pane := w.pane ++ p.paneLines }
    match w.pipe with
    | none => server
    | some path =>
      let content := Text.Utf8.encode p.capture
      if server.captureDelay = 0 then server.appendFile path content
      else { server with delayed := some { path, readsLeft := server.captureDelay, content } }

/-- What the shell writes to a pipe for a typed line. -/
def transcript (typed stdout marker : String) : String :=
  typed ++ "\r\n\x1b[?2004l\r" ++
    .ofList (stdout.toList.flatMap fun c => if c = '\n' then ['\r', '\n'] else [c]) ++
    "\r\n" ++ marker ++ "\r\n$ "

/-- The outcome of a command line, `marked` being what follows the command in it. -/
def outcome (address typed command marked : String) : Pending :=
  let stdout : String := .ofList (Shell.run command.toList)
  let marker := (PaneRunner.Shell.words marked).headD "" ++ " " ++
    Text.Decimal.ofInt server.exitCode.toInt
  { address
    pollsLeft := server.completionDelay
    paneLines := (Text.pieces '\n' stdout.toList).map .ofList ++ [marker, "$ "]
    capture := match server.captureOverride with
      | some ls => Text.unlines ls
      | none => transcript typed stdout marker }

/-- A line was entered in the window at `address`. -/
def submit (address typed : String) : Server :=
  match Text.splitOnce? typed Tmux.markerCommand with
  | none =>
    server.onWindow address fun w => { w with pane := w.pane ++ server.responder typed }
  | some (command, marked) =>
    let p := server.outcome address typed command marked
    if p.pollsLeft = 0 then server.complete p else { server with pending := some p }

/-- The text that hexadecimal arguments spell. -/
def typedText (keys : List String) : String := Text.Utf8.decode (keys.filterMap Text.Hex.byte?)

/-- What keys do in the window at `address`. -/
def press (address : String) (w : Window) : List String → Server
  | "-H" :: keys =>
    let text := typedText keys
    server.onWindow address fun w =>
      { w with input := w.input ++ text, pane := extendLast w.pane text }
  | "enter" :: _ | "Enter" :: _ =>
    (server.onWindow address fun w => { w with input := "" }).submit address w.input
  | "C-c" :: _ =>
    server.onWindow address fun w =>
      { w with input := "", pane := extendLast w.pane "^C" ++ ["$ "] }
  | _ => server

def sendKeys (args : List String) : Exec.Output × Server :=
  let address := (flagValue? args "-t").getD ""
  match server.window? address with
  | none => server.refuse (noPane address)
  | some w => (server.press address w (args.drop 2)).accept ""

/-- A look at a pane. A command in it that has been looked at often enough ends first. -/
def advance (address : String) : Server :=
  match server.pending with
  | none => server
  | some p =>
    let left := if p.address = address then p.pollsLeft - 1 else p.pollsLeft
    if left = 0 then { server with pending := none : Server }.complete { p with pollsLeft := left }
    else { server with pending := some { p with pollsLeft := left } }

def capturePane (args : List String) : Exec.Output × Server :=
  let address := (flagValue? args "-t").getD ""
  let server := server.advance address
  match server.window? address with
  | some w => server.accept (Text.unlines w.pane)
  | none => server.refuse (noPane address)

/-- The file that a pipe command appends to. -/
def pipePath? (command : String) : Option String := do
  (PaneRunner.Shell.words (← Text.stripStart? command "cat >> ")).head?

def pipePane (args : List String) : Exec.Output × Server :=
  let address := (flagValue? args "-t").getD ""
  match server.window? address with
  | none => server.refuse (noPane address)
  | some _ =>
    (server.onWindow address fun w => { w with pipe := pipePath? (args.getD 2 "") }).accept ""

/-- Take out the first failure that was ordered for a subcommand. -/
def takeFailure? (subcommand : String) : Option (Failure × Server) :=
  match server.failures.find? fun f => f.subcommand == subcommand with
  | none => none
  | some f =>
    some (f, { server with failures := server.failures.eraseP fun f => f.subcommand == subcommand })

/-- Carry out a subcommand. -/
def subcommand (name : String) (args : List String) : Exec.Output × Server :=
  match name with
  | "-V" => server.accept "tmux 3.4\n"
  | "ls" => server.listSessions
  | "new-session" => server.newSession args
  | "new-window" => server.newWindow args
  | "kill-session" => server.killSession args
  | "kill-window" => server.killWindow args
  | "list-windows" => server.listWindows args
  | "send-keys" => server.sendKeys args
  | "capture-pane" => server.capturePane args
  | "pipe-pane" => server.pipePane args
  | other => server.refuse ("unknown command: " ++ other ++ "\n")

/-- Carry out a command, whatever program it names. -/
def command : List String → Exec.Output × Server
  | [] => server.refuse "usage: tmux [-V] command\n"
  | name :: args =>
    match server.takeFailure? name with
    | some (f, server) => ({ stderr := Text.Utf8.encode f.stderr, code := f.code }, server)
    | none => server.subcommand name args

/-- Run an invocation and record it. -/
def invoke (i : Exec.Invocation) : Except Exec.Error Exec.Output × Server :=
  match i.argv with
  | [] => (.error .emptyArgv, server)
  | program :: args =>
    let (o, server) := { server with calls := (program :: args) :: server.calls : Server }.command args
    (o.judge i.acceptAny (Text.join " " i.argv), server)

/-- The path of the `n`-th file. -/
def filePath (n : Nat) : String := "/tmp/fake-tmux-capture-" ++ Text.Decimal.ofNat n ++ ".log"

def createFile : String × Server :=
  let path := filePath (server.filesMade + 1)
  (path, { server with
    filesMade := server.filesMade + 1
    files := server.files ++ [(path, [])] })

/-- A read of a file. Capture bytes that have stayed behind long enough reach their file first. -/
def flush (path : String) : Server :=
  match server.delayed with
  | none => server
  | some d =>
    let left := if d.path = path then d.readsLeft - 1 else d.readsLeft
    if left = 0 then { server with delayed := none : Server }.appendFile d.path d.content
    else { server with delayed := some { d with readsLeft := left } }

def readFile (path : String) : Except Exec.Error Bytes × Server :=
  let server := { server with fileReads := server.fileReads + 1 : Server }.flush path
  (match server.file? path with
    | some content => .ok content
    | none => .error (.executionFailed ("no such file: " ++ path)), server)

def removeFile (path : String) : Server :=
  { server with files := server.files.filter fun f => f.1 != path }

/-- The files that are there, in the order of their paths. -/
def liveFiles : List String := (server.files.map Prod.fst).mergeSort fun a b => decide (a ≤ b)

/-- How many calls named a subcommand. -/
def countCalls (subcommand : String) : Nat :=
  server.calls.countP fun argv => argv[1]? == some subcommand

/-- What the server is called where executors are told apart. -/
def summary : String := "fake-tmux"

/-- The server as an executor; its answers take no time. -/
def executor : Executor Exec.Answer Server
  | .run i, server => let (answer, server) := server.invoke i; { value := answer, state := server }
  | .newFile, server =>
    let (path, server) := server.createFile
    { value := .ok path, state := server }
  | .contents path, server =>
    let (answer, server) := server.readFile path
    { value := answer, state := server }
  | .removeFile path, server => { value := .ok (), state := server.removeFile path }

end Server

end PaneRunner.Simulation
