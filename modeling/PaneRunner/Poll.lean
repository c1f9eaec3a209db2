import PaneRunner.Duration

/-
  How often a wait checks, and when it gives up. A limit counts checks, measures time, or never
  ends. The first check is made at once; a limit of zero checks makes none.
-/
namespace PaneRunner.Poll

/-- When a wait gives up. -/
inductive Limit where
  | attempts (most : Nat)
  | timeout (limit : Duration)
  | unbounded
  deriving DecidableEq, Repr

/-- The pause between two checks, and the limit. -/
structure Policy where
  interval : Duration
  limit : Limit
  deriving DecidableEq, Repr

/-- How a wait that gave up had gone. -/
structure Report where
  attempts : Nat
  elapsed : Duration
  deriving DecidableEq, Repr

/-- How a wait ended. -/
inductive Outcome (α : Type) where
  | ready (value : α)
  | exhausted (report : Report)

namespace Limit

/-- No check may be made at all. -/
def forbids : Limit → Bool
  | .attempts most => most == 0
  | _ => false

/-- No further check may follow `attempts` checks that took `elapsed`. -/
def spent (limit : Limit) (attempts : Nat) (elapsed : Duration) : Bool :=
  match limit with
  | .attempts most => most ≤ attempts
  | .timeout limit => limit ≤ elapsed
  | .unbounded => false

end Limit

namespace Policy

/-- Waiting for an idle prompt: thirty checks, 100 ms apart. -/
def promptReady : Policy := ⟨.ofMillis 100, .attempts 30⟩

/-- Waiting for a text to show: every 100 ms for `limit`. -/
def outputMatch (limit : Duration) : Policy := ⟨.ofMillis 100, .timeout limit⟩

/-- Waiting for a command to end: every 200 ms, for `limit` if there is one. -/
def commandCompletion (limit : Option Duration) : Policy :=
  ⟨.ofMillis 200, match limit with
    | some limit => .timeout limit
    | none => .unbounded⟩

/-- Waiting for the capture file to be complete: twenty checks, 100 ms apart. -/
def captureFlush : Policy := ⟨.ofMillis 100, .attempts 20⟩

end Policy

end PaneRunner.Poll
