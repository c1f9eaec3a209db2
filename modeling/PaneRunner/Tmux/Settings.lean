import PaneRunner.Tmux.Marker

/-
  What every operation of one multiplexer shares: which program to run, how to wait, and what
  prompts and end markers look like.
-/
namespace PaneRunner.Tmux

structure Settings where
  /-- the multiplexer's program -/
  binary : String := "tmux"
  /-- the wait for an idle prompt before a command -/
  promptReady : Poll.Policy := .promptReady
  /-- the pause between two looks for a matching output -/
  outputInterval : Duration := .ofMillis 100
  /-- the pause between two looks for the end marker -/
  completionInterval : Duration := .ofMillis 200
  /-- how long a command may run; without it, for ever -/
  commandTimeout : Option Duration := none
  /-- the wait for a complete capture file -/
  captureFlush : Poll.Policy := .captureFlush
  /-- the endings of an idle prompt -/
  suffixes : List String := defaultSuffixes
  /-- what the exit code line starts with -/
  marker : String := defaultMarker
  deriving DecidableEq, Repr

namespace Settings

/-- The wait for an output to match. -/
def outputMatch (cfg : Settings) (limit : Duration) : Poll.Policy :=
  ⟨cfg.outputInterval, .timeout limit⟩

/-- The wait for the end marker. -/
def commandCompletion (cfg : Settings) : Poll.Policy :=
  { Poll.Policy.commandCompletion cfg.commandTimeout with interval := cfg.completionInterval }

end Settings

end PaneRunner.Tmux
