import PaneRunner.Exec.Request
import PaneRunner.Simulation.Rules

/-
  An executor that answers from a script, and keeps a log of what it was asked to run. Files are
  handled by running programs, so the script answers for them too.
-/
namespace PaneRunner.Simulation

/-- What a script answers: an output or a failure, after a delay. -/
structure Scripted where
  output : Exec.Output := {}
  delay : Duration := .zero
  failure : Option Exec.Error := none

structure Script where
  rules : List (Rule Scripted) := []
  /-- what was run, the latest first -/
  calls : List Exec.Invocation := []

namespace Script

/-- What the script is called where executors are told apart. -/
def summary : String := "scripted"

/-- Answer one invocation. A call that no rule answers ends well without a word. -/
def invoke (i : Exec.Invocation) (s : Script) : Reply (Except Exec.Error Exec.Output) Script :=
  let (reply, rules) := Rule.take (Text.join " " i.argv) s.rules
  let reply := reply.getD {}
  { value := match reply.failure with
      | some e => .error e
      | none => reply.output.judge i.acceptAny (Shell.join i.argv)
    took := reply.delay.onTimer timerLimit
    state := { rules, calls := i :: s.calls } }

/-- The script as an executor. -/
def executor : Executor Exec.Answer Script := Exec.viaPrograms invoke

end Script

end PaneRunner.Simulation
