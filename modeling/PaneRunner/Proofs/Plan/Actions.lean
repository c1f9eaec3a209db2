import PaneRunner.Proofs.Plan.Ends
import PaneRunner.Tmux.View

/-
  Actions that end. An action goes on after a value and stops at the first error (`Ends.seq`,
  `Ends.seq_error`), unless the error is taken as a value (`Ends.attempt`). A poll ends with the
  first good answer that its check accepts (`Ends.pollOn_ready`).
-/
namespace PaneRunner.Plan.Ends

open Tmux

variable {σ α β : Type} {ex : Executor Exec.Answer σ} {s s' s'' : σ}

theorem pure (a : α) (s : σ) : Ends ex (Pure.pure a : Action α).run s (.ok a) s := done _ s

theorem ofExcept (r : Except Error α) (s : σ) : Ends ex (Action.ofExcept r).run s r s := done r s

theorem seq {x : Action α} {f : α → Action β} {a : α} {r : Except Error β}
    (h : Ends ex x.run s (.ok a) s') (h' : Ends ex (f a).run s' r s'') :
    Ends ex (x >>= f).run s r s'' := bind (f := ExceptT.bindCont f) h h'

theorem seq_error {x : Action α} {f : α → Action β} {e : Error}
    (h : Ends ex x.run s (.error e) s') : Ends ex (x >>= f).run s (.error e) s' :=
  bind (f := ExceptT.bindCont f) h (done _ s')

theorem attempt {x : Action α} {r : Except Error α} (h : Ends ex x.run s r s') :
    Ends ex x.attempt.run s (.ok r) s' := bind h (done _ s')

theorem ofAnswer {p : Exec.Procedure (Except Exec.Error α)} {a : Except Exec.Error α}
    (h : Ends ex p s a s') :
    Ends ex (Action.ofAnswer p).run s (a.mapError .exec) s' := bind h (done _ s')

section Poll

variable {policy : Poll.Policy} {r : Exec.Request} {view : Exec.Answer r → Except Exec.Error α}
  {check : α → Option β} {gaveUp : Poll.Report → Action β} (st : Nat → σ)

/-- A poll ends with the first good answer that its check accepts. -/
theorem pollOn_ready {m : Nat} {a : α} {b : β}
    (hstep : ∀ i ≤ m, (ex r (st i)).state = st (i + 1))
    (hwait : ∀ i < m, ∃ a, view (ex r (st i)).value = .ok a ∧ check a = none)
    (hview : view (ex r (st m)).value = .ok a) (hcheck : check a = some b)
    (hlimit : policy.limit.Allows m) :
    Ends ex (Action.pollOn policy r view check gaveUp).run (st 0) (.ok b) (st (m + 1)) := by
  refine bind (pollUntil_ready st hstep (fun i hi => ?_) ?_ hlimit) (done _ _)
  · obtain ⟨a, hv, hc⟩ := hwait i hi
    rw [hv]
    exact congrArg Except.ok hc
  · rw [hview]
    exact congrArg Except.ok hcheck

/-- A poll may end with its first answer. -/
theorem pollOn_first {a : α} {b : β} (hstate : (ex r s).state = s')
    (hview : view (ex r s).value = .ok a) (hcheck : check a = some b)
    (hlimit : policy.limit.Allows 0) :
    Ends ex (Action.pollOn policy r view check gaveUp).run s (.ok b) s' := by
  refine pollOn_ready (fun i => if i = 0 then s else s') (m := 0) (fun i hi => ?_)
    (fun i hi => absurd hi (Nat.not_lt_zero i)) hview hcheck hlimit
  rw [Nat.le_zero.1 hi]
  exact hstate

/-- A poll whose check accepts no answer goes on, after the attempts that its limit allows, as an
exhausted poll does. -/
theorem pollOn_gaveUp {most : Nat} {x : Action β} {result : Except Error β}
    (hlimit : policy.limit = .attempts most)
    (hstep : ∀ i < most, (ex r (st i)).state = st (i + 1))
    (hwait : ∀ i < most, ∃ a, view (ex r (st i)).value = .ok a ∧ check a = none)
    (hgaveUp : ∀ elapsed, gaveUp ⟨most, elapsed⟩ = x) (hx : Ends ex x.run (st most) result s') :
    Ends ex (Action.pollOn policy r view check gaveUp).run (st 0) result s' := by
  refine wait_gaveUp (p := x.run) st hlimit hstep (fun i hi => ?_) (fun elapsed => ?_) hx
  · obtain ⟨a, hv, hc⟩ := hwait i hi
    simp only [hv]
    exact congrArg (fun found => settles (.ok found : Except Error (Option β))) hc
  · rw [← hgaveUp elapsed]
    rfl

end Poll

end PaneRunner.Plan.Ends
