import PaneRunner.Cli.CarryOut
import PaneRunner.Cli.Usage
import PaneRunner.Simulation.Server

/-
  The program. It rehearses a command line: the configuration is the default one, and the
  multiplexer is one in memory that has no sessions yet, so nothing outside the program changes.
-/
namespace PaneRunner.Cli

/-- The checks that one wait of a rehearsal may make. -/
def rehearsalBounds : Bounds := { pause := some timerLimit, checks := 100000 }

/-- Carry out a command line on a multiplexer in memory. -/
def rehearse (words : List String) : Report :=
  match Args.ofWords words with
  | .error r => r.report
  | .ok args =>
    match args.setup {} with
    | .error e => .ofFailure (.config e)
    | .ok s =>
      let (result, _) :=
        (args.command.perform s.settings).run.run Simulation.Server.executor rehearsalBounds
          ⟨{}, .zero⟩
      (result.map Report.ofResult).getD { stderr := Report.errorLine "broken off", code := 1 }

end PaneRunner.Cli

def main (args : List String) : IO UInt32 := do
  let report := PaneRunner.Cli.rehearse args
  let out ← IO.getStdout
  out.write ⟨report.stdout.toArray⟩
  out.flush
  IO.eprint report.stderr
  return .ofNat report.status
