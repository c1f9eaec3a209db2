import PaneRunner.Cli.Perform
import PaneRunner.Cli.Setup

/-
  A command line on a machine, from the configuration to the report. Whatever the command comes
  to, the connection that was opened for it is closed.
-/
namespace PaneRunner.Cli

/-- Carry out a command on a target. -/
def Setup.carryOut (s : Setup) (bounds : Bounds) (command : Command) (m : Machine) :
    Option Report × Machine :=
  match s.target.connect m with
  | (.error e, m) => (some (.ofFailure (.exec e)), m)
  | (.ok c, m) =>
    let (result, t) := (command.perform s.settings).run.run c.executor bounds ⟨m, .zero⟩
    (result.map Report.ofResult, c.close t.state)

/-- Carry out a command line on a machine; no report if its bounds broke it off. -/
def Args.carryOut (args : Args) (bounds : Bounds) (m : Machine) : Option Report × Machine :=
  match (m.loadConfig args.config).bind fun l => args.setup l.config with
  | .error e => (some (.ofFailure (.config e)), m)
  | .ok s => s.carryOut bounds args.command m

end PaneRunner.Cli
