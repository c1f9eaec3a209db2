import PaneRunner.Cli.Args
import PaneRunner.Cli.Report
import PaneRunner.Config.Load

/-
  From the options of a command line to a target and settings. An option outweighs the
  configuration and the environment, and what comes out must be valid once more.
-/
namespace PaneRunner

/-- The configuration with what a command line says in its place. -/
def Config.withArgs (c : Config) (args : Cli.Args) : Config :=
  let c := match args.ssh with
    | some host => { c with target := { c.target with kind := .ssh, host := some host } }
    | none => c
  let c := match args.container with
    | some name => { c with target := { c.target with kind := .container, container := some name } }
    | none => c
  match args.tmuxBin with
  | some binary => { c with tmux := { binary } }
  | none => c

namespace Cli

/-- What a command needs: where the multiplexer lives, and how to use it. -/
structure Setup where
  config : Config
  target : Target
  settings : Tmux.Settings

/-- What a configuration comes to under a command line. -/
def Args.setup (args : Args) (c : Config) : Except Config.Error Setup := do
  let config := c.withArgs args
  config.validate
  pure { config, target := ← config.targetOf, settings := ← config.settings }

end Cli

end PaneRunner
