import PaneRunner.Config.Decode
import PaneRunner.Text.Pieces

/-
  Where a configuration comes from. The first file that is there is taken: one named explicitly,
  else the one in the working directory, else the one below the configuration root; without any,
  the defaults. Variables of the environment replace what the file says, and what is left must be
  valid.
-/
namespace PaneRunner

namespace Config

/-- The values of variables. -/
abbrev Environment := String → Option String

/-- The value of a variable, trimmed, unless it is blank. -/
def Environment.text? (env : Environment) (name : String) : Option String :=
  ((env name).map Text.trim).filter fun v => !v.isEmpty

/-- The texts between commas, trimmed, without the empty ones. -/
def splitCommas (s : String) : List String :=
  ((Text.pieces ',' s.toList).map fun p => Text.trim (.ofList p)).filter fun p => !p.isEmpty

/-- The kind that a variable names, letter case aside. -/
def kindOf (raw : String) : Except Error Kind :=
  match Kind.ofName? (Text.lower raw) with
  | some k => .ok k
  | none =>
    .error (.invalid ("invalid TMUXDRIVE_TARGET value `" ++ Text.lower raw ++
      "`: expected local, ssh, or container"))

/-- The configuration with what the environment says in its place. -/
def override (c : Config) (env : Environment) : Except Error Config := do
  let kind ← match env.text? "TMUXDRIVE_TARGET" with
    | some raw => kindOf raw
    | none => pure c.target.kind
  pure {
    target := {
      kind
      host := (env.text? "TMUXDRIVE_SSH_HOST").or c.target.host
      container := (env.text? "TMUXDRIVE_CONTAINER").or c.target.container }
    tmux := { binary := (env.text? "TMUXDRIVE_TMUX_BIN").getD c.tmux.binary }
    polling := { c.polling with
      commandTimeout := (env.text? "TMUXDRIVE_COMMAND_TIMEOUT").or c.polling.commandTimeout }
    prompt := {
      suffixes := ((env.text? "TMUXDRIVE_PROMPT_SUFFIXES").map splitCommas).getD c.prompt.suffixes }
    run := { marker := (env.text? "TMUXDRIVE_END_MARKER_PREFIX").getD c.run.marker } }

/-- The name of a configuration file. -/
def fileName : String := "tmuxdrive.toml"

/-- The configuration file below a configuration root. -/
def globalFile (root : String) : String :=
  Machine.inDir (Machine.inDir root "tmuxdrive") fileName

/-- The text of the first configuration file that is there, and its path. Only an explicit path
must be there. -/
def sourceText (read : String → Except Machine.OsError String) (root : Option String)
    (explicit : Option String) : Except Error (String × Option String) :=
  match explicit with
  | some path =>
    match read path with
    | .ok text => .ok (text, some path)
    | .error e => .error (.io e.text)
  | none =>
    match read fileName with
    | .ok text => .ok (text, some fileName)
    | .error _ =>
      match root.map fun r => (globalFile r, read (globalFile r)) with
      | some (path, .ok text) => .ok (text, some path)
      | _ => .ok ("", none)

/-- A valid configuration, and the file it came from. -/
structure Loaded where
  config : Config
  source : Option String
  deriving DecidableEq, Repr

/-- Load the configuration with a given reading of configuration files. -/
def loadWith (parse : String → Option Config) (read : String → Except Machine.OsError String)
    (env : Environment) (root : Option String) (explicit : Option String) :
    Except Error Loaded := do
  let (text, source) ← sourceText read root explicit
  match parse text with
  | none => throw .malformed
  | some c =>
    let config ← c.override env
    config.validate
    pure { config, source }

/-- Load the configuration. -/
def load (read : String → Except Machine.OsError String) (env : Environment)
    (root : Option String) (explicit : Option String) : Except Error Loaded :=
  loadWith parse? read env root explicit

end Config

/-- The configuration root: what the environment says if that is an absolute path, else a
directory in the home directory. -/
def Machine.configRoot (m : Machine) : Option String :=
  let absolute? (name : String) : Option String :=
    ((m.env.lookup name).map Text.Utf8.decode).filter Machine.Tree.isAbsolute
  match absolute? "XDG_CONFIG_HOME" with
  | some root => some root
  | none =>
    (((m.env.lookup "HOME").map Text.Utf8.decode).filter fun h => !h.isEmpty).map fun h =>
      Machine.inDir h ".config"

/-- Load the configuration of a machine. -/
def Machine.loadConfig (m : Machine) (explicit : Option String) : Except Config.Error Config.Loaded :=
  Config.load m.readText m.var? m.configRoot explicit

end PaneRunner
