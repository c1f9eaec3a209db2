import PaneRunner.Text.Search

/-
  Scripted replies. A list of rules answers calls: the first rule that applies is taken, and
  counts how often it was.
-/
namespace PaneRunner.Simulation

/-- A reply, the calls it is for, and how often it may be given. -/
structure Rule (α : Type) where
  /-- a part of the calls it is for; without it, every call -/
  pattern : Option String := none
  /-- how often it may be taken; without it, always -/
  times : Option Nat := none
  /-- how often it was taken -/
  taken : Nat := 0
  reply : α

namespace Rule

variable {α : Type}

/-- Whether the rule answers a call now. -/
def applies (r : Rule α) (call : String) : Bool :=
  (match r.pattern with
    | some p => Text.contains call p
    | none => true) &&
  (match r.times with
    | some n => decide (r.taken < n)
    | none => true)

/-- The reply of the first rule that applies, and the rules with that one counted. -/
def take (call : String) : List (Rule α) → Option α × List (Rule α)
  | [] => (none, [])
  | r :: rs =>
    if r.applies call then (some r.reply, { r with taken := r.taken + 1 } :: rs)
    else let (reply, rs) := take call rs; (reply, r :: rs)

end Rule

end PaneRunner.Simulation
