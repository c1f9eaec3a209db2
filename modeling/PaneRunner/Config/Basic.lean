import PaneRunner.Target.Connect
import PaneRunner.Tmux.Settings

/-
  The configuration. `validate` accepts the values that a multiplexer can work with, and says of
  the first other one what is wrong with it; `target` and `settings` are what a configuration
  comes to.
-/
namespace PaneRunner

namespace Config

/-- The kinds of targets. -/
inductive Kind where
  | local
  | ssh
  | container
  deriving DecidableEq, Repr

/-- The kind of a name. -/
def Kind.ofName? : String → Option Kind
  | "local" => some .local
  | "ssh" => some .ssh
  | "container" => some .container
  | _ => none

def Kind.name : Kind → String
  | .local => "local"
  | .ssh => "ssh"
  | .container => "container"

theorem Kind.ofName?_name (k : Kind) : Kind.ofName? k.name = some k := by cases k <;> rfl

/-- Which target the multiplexer lives on. -/
structure TargetSection where
  kind : Kind := .local
  host : Option String := none
  container : Option String := none
  deriving DecidableEq, Repr

/-- Which program the multiplexer is. -/
structure TmuxSection where
  binary : String := "tmux"
  deriving DecidableEq, Repr

/-- How often and how long waits check, in milliseconds. -/
structure PollingSection where
  promptAttempts : Nat := 30
  promptInterval : Nat := 100
  outputInterval : Nat := 100
  completionInterval : Nat := 200
  commandTimeout : Option String := none
  flushAttempts : Nat := 20
  flushInterval : Nat := 100
  deriving DecidableEq, Repr

/-- What an idle prompt ends in. -/
structure PromptSection where
  suffixes : List String := Tmux.defaultSuffixes
  deriving DecidableEq, Repr

/-- What starts the line with the exit code. -/
structure RunSection where
  marker : String := Tmux.defaultMarker
  deriving DecidableEq, Repr

/-- Why there is no configuration. -/
inductive Error where
  /-- its file cannot be read -/
  | io (reason : String)
  /-- its file is not well formed, or holds values of the wrong type -/
  | malformed
  /-- a value is of no use -/
  | invalid (reason : String)
  deriving DecidableEq, Repr

/-- The text of an error. -/
def Error.message : Error → String
  | .io reason => "io: " ++ reason
  | .malformed => "toml: TOML parse error"
  | .invalid reason => "invalid config: " ++ reason

end Config

structure Config where
  target : Config.TargetSection := {}
  tmux : Config.TmuxSection := {}
  polling : Config.PollingSection := {}
  prompt : Config.PromptSection := {}
  run : Config.RunSection := {}
  deriving DecidableEq, Repr

namespace Config

variable (c : Config)

/-- A name that must be there, trimmed. -/
def required (value : Option String) (field kind : String) : Except Error String :=
  match (value.map Text.trim).filter fun v => !v.isEmpty with
  | some v => .ok v
  | none =>
    .error (.invalid ("target." ++ field ++ " is required when target.kind = \"" ++ kind ++ "\""))

/-- The target that a configuration selects. -/
def targetOf : Except Error Target :=
  match c.target.kind with
  | .local => .ok .local
  | .ssh => (required c.target.host "host" "ssh").map .ssh
  | .container => (required c.target.container "container" "container").map .container

/-- How long a command may run; a limit must be longer than nothing. -/
def commandTimeout : Except Error (Option Duration) :=
  match c.polling.commandTimeout with
  | none => .ok none
  | some raw =>
    match (Duration.parse? raw).filter (· ≠ .zero) with
    | some limit => .ok (some limit)
    | none =>
      .error (.invalid
        ("invalid polling.command_timeout `" ++ raw ++ "`: expected e.g. 30s, 10m, 1h"))

/-- Refuse for a reason unless `ok`. -/
def ensure (ok : Bool) (reason : String) : Except Error Unit :=
  if ok then .ok () else .error (.invalid reason)

/-- The counts and intervals, which must not be zero. -/
def counts : List (String × Nat) :=
  [("polling.prompt_attempts", c.polling.promptAttempts),
    ("polling.capture_flush_attempts", c.polling.flushAttempts),
    ("polling.prompt_interval_ms", c.polling.promptInterval),
    ("polling.output_interval_ms", c.polling.outputInterval),
    ("polling.completion_interval_ms", c.polling.completionInterval),
    ("polling.capture_flush_interval_ms", c.polling.flushInterval)]

/-- Refuse values that no multiplexer could work with. -/
def validate : Except Error Unit := do
  let _ ← c.targetOf
  ensure (!Text.isBlank c.tmux.binary) "tmux.binary cannot be empty"
  c.counts.forM fun (name, value) => ensure (value != 0) (name ++ " must be at least 1")
  let _ ← c.commandTimeout
  ensure (!c.prompt.suffixes.all Text.isBlank) "prompt.suffixes needs at least one non-empty suffix"
  let marker := c.run.marker
  ensure (!marker.isEmpty && !marker.toList.any Text.isBlankChar)
    ("run.end_marker_prefix `" ++ marker ++ "` must be non-empty and contain no whitespace")
  ensure (!marker.toList.contains '\x27') "run.end_marker_prefix cannot contain single quotes"

/-- The settings that a configuration comes to. -/
def settings : Except Error Tmux.Settings := do
  let p := c.polling
  pure {
    binary := c.tmux.binary
    promptReady := ⟨.ofMillis p.promptInterval, .attempts p.promptAttempts⟩
    outputInterval := .ofMillis p.outputInterval
    completionInterval := .ofMillis p.completionInterval
    commandTimeout := ← c.commandTimeout
    captureFlush := ⟨.ofMillis p.flushInterval, .attempts p.flushAttempts⟩
    suffixes := c.prompt.suffixes.filter fun s => !Text.isBlank s
    marker := c.run.marker }

end Config

end PaneRunner
