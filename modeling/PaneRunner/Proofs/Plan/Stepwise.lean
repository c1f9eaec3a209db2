import PaneRunner.Proofs.Plan.Actions

/-
  Plans step by step. A step of a plan is one request, and `Underway` is how far it has come. A check
  of a wait is a step, too, and how long the wait has lasted is up to whoever takes the step, so a fact
  about all steps holds on every clock. A plan that ends takes a number of steps to its end
  (`Ends.exists_steps`). `Asks` is a step that puts a question, `step_pollOn` one that makes a check of a
  poll. `Short` bounds the questions of a plan without waits.
-/
namespace PaneRunner.Plan

variable {ρ : Type} {Answer : ρ → Type} {ι α β σ : Type}

/-- A plan under way: what is left of it, and how many checks the wait at its head has made. -/
structure Underway {ρ : Type} (Answer : ρ → Type) (α : Type) where
  plan : Plan Answer α
  made : Nat := 0

namespace Underway

/-- The value of a plan that has ended. -/
def result? (u : Underway Answer α) : Option α :=
  match u.plan with
  | .done a => some a
  | _ => none

/-- The next step of a plan. It is one request, unless the plan has ended or begins with a wait that
may not check at all; `elapsed` is how long the wait has lasted. -/
def step (ex : Executor Answer σ) (elapsed : Duration) (u : Underway Answer α) (s : σ) :
    Underway Answer α × σ :=
  match u.plan with
  | .done _ => (u, s)
  | .ask r next => ({ plan := next (ex r s).value }, (ex r s).state)
  | .wait policy r stop next gaveUp =>
    if policy.limit.forbids then ({ plan := gaveUp ⟨0, .zero⟩ }, s)
    else if h : stop (ex r s).value = true then ({ plan := next _ h }, (ex r s).state)
    else if policy.limit.spent (u.made + 1) elapsed then
      ({ plan := gaveUp ⟨u.made + 1, elapsed⟩ }, (ex r s).state)
    else ({ u with made := u.made + 1 }, (ex r s).state)

/-- Step after step of one plan. -/
def steps (ex : Executor Answer σ) (elapsed : List Duration) (c : Underway Answer α × σ) :
    Underway Answer α × σ :=
  elapsed.foldl (fun c t => c.1.step ex t c.2) c

theorem steps_cons (ex : Executor Answer σ) (t : Duration) (ts : List Duration)
    (u : Underway Answer α) (s : σ) : steps ex (t :: ts) (u, s) = steps ex ts (u.step ex t s) := rfl

theorem steps_append (ex : Executor Answer σ) (ts ts' : List Duration)
    (c : Underway Answer α × σ) : steps ex (ts ++ ts') c = steps ex ts' (steps ex ts c) :=
  List.foldl_append

theorem step_ask (ex : Executor Answer σ) (t : Duration) (r : ρ) (next : Answer r → Plan Answer α)
    (made : Nat) (s : σ) :
    step ex t ⟨.ask r next, made⟩ s = ({ plan := next (ex r s).value }, (ex r s).state) := rfl

/-- A step of a wait that may check is a check. -/
theorem step_wait (ex : Executor Answer σ) (t : Duration) {policy : Poll.Policy} {r : ρ}
    {stop : Answer r → Bool} {next : (a : Answer r) → stop a = true → Plan Answer α}
    {gaveUp : Poll.Report → Plan Answer α} (hallowed : policy.limit.forbids = false) (made : Nat)
    (s : σ) :
    step ex t ⟨.wait policy r stop next gaveUp, made⟩ s =
      if h : stop (ex r s).value = true then ({ plan := next _ h }, (ex r s).state)
      else if policy.limit.spent (made + 1) t then
        ({ plan := gaveUp ⟨made + 1, t⟩ }, (ex r s).state)
      else (⟨.wait policy r stop next gaveUp, made + 1⟩, (ex r s).state) :=
  if_neg (by rw [hallowed]; exact Bool.false_ne_true)

/-- A step is no more than a request. -/
theorem step_preserves {ex : Executor Answer σ} {P : σ → Prop} (h : ∀ r s, P s → P (ex r s).state)
    (elapsed : Duration) (u : Underway Answer α) {s : σ} (hs : P s) : P (u.step ex elapsed s).2 := by
  unfold step
  split
  · exact hs
  · exact h _ s hs
  · rename_i r _ _ _ _
    split
    · exact hs
    · split
      · exact h r s hs
      · split
        · exact h r s hs
        · exact h r s hs

theorem eq_done_of_result? {u : Underway Answer α} {a : α} (h : u.result? = some a) :
    u.plan = .done a := by
  unfold result? at h
  split at h
  · rename_i b hplan
    rw [hplan, Option.some.inj h]
  · cases h

/-- A plan that has ended stays so. -/
theorem step_of_result? {u : Underway Answer α} {a : α} (h : u.result? = some a)
    (ex : Executor Answer σ) (elapsed : Duration) (s : σ) : u.step ex elapsed s = (u, s) := by
  rw [step, eq_done_of_result? h]

theorem steps_of_result? {u : Underway Answer α} {a : α} (h : u.result? = some a)
    (ex : Executor Answer σ) (ts : List Duration) (s : σ) : steps ex ts (u, s) = (u, s) := by
  induction ts with
  | nil => rfl
  | cons t ts ih =>
    rw [steps_cons, step_of_result? h]
    exact ih

end Underway

open Underway

variable {ex : Executor Answer σ}

/-! ## Whole runs -/

theorem pass_state {b : Bounds} {d : Duration} {w w' : Timed σ} {ok : Bool}
    (h : Timed.pass b d w = (ok, w')) : w'.state = w.state := by
  unfold Timed.pass at h
  split at h
  · split at h <;> cases h <;> rfl
  · cases h
    rfl

theorem put_eq_some {b : Bounds} {r : ρ} {w w' : Timed σ} {a : Answer r}
    (h : put ex b r w = (some a, w')) :
    (ex r w.state).value = a ∧ (ex r w.state).state = w'.state := by
  unfold put at h
  dsimp only at h
  split at h
  · rename_i hpass
    cases h
    exact ⟨rfl, (pass_state hpass).symm⟩
  · cases h

section Checks

variable {policy : Poll.Policy} {r : ρ} {stop : Answer r → Bool}
  {next : (a : Answer r) → stop a = true → Plan Answer α} {gaveUp : Poll.Report → Plan Answer α}

/-- How a plan goes on after its wait. -/
def resumed (next : (a : Answer r) → stop a = true → Plan Answer α)
    (gaveUp : Poll.Report → Plan Answer α) : WaitEnd Answer r stop → Plan Answer α
  | .ready a h => next a h
  | .gaveUp rep => gaveUp rep

variable (next gaveUp) in
/-- The checks of a wait are steps. -/
theorem exists_steps_of_checks {b : Bounds} (hallowed : policy.limit.forbids = false)
    {start : Duration} {fuel made : Nat} {w w' : Timed σ} {e : WaitEnd Answer r stop}
    (h : checks ex b policy r stop start fuel made w = (some e, w')) :
    ∃ ts, steps ex ts (⟨.wait policy r stop next gaveUp, made⟩, w.state) =
      ({ plan := resumed next gaveUp e }, w'.state) := by
  induction fuel generalizing made w with
  | zero => cases h
  | succ fuel ih =>
    unfold checks at h
    split at h
    · cases h
    · rename_i a w₁ hput
      obtain ⟨hvalue, hstate⟩ := put_eq_some hput
      have hstep : ∀ t, step ex t ⟨.wait policy r stop next gaveUp, made⟩ w.state =
          if h : stop a = true then ({ plan := next a h }, w₁.state)
          else if policy.limit.spent (made + 1) t then
            ({ plan := gaveUp ⟨made + 1, t⟩ }, w₁.state)
          else (⟨.wait policy r stop next gaveUp, made + 1⟩, w₁.state) := by
        intro t
        rw [step_wait ex t hallowed, hstate]
        subst hvalue
        rfl
      split at h
      · rename_i hstop
        cases h
        refine ⟨[.zero], (hstep .zero).trans ?_⟩
        rw [dif_pos hstop]
        rfl
      · rename_i hstop
        split at h
        · rename_i hspent
          cases h
          refine ⟨[w'.now - start], (hstep _).trans ?_⟩
          rw [dif_neg hstop, if_pos hspent]
          rfl
        · rename_i hspent
          split at h
          · cases h
          · rename_i w₂ hpass
            obtain ⟨ts, hts⟩ := ih h
            refine ⟨(w₁.now - start) :: ts, ?_⟩
            have hfirst := hstep (w₁.now - start)
            rw [dif_neg hstop, if_neg hspent, ← pass_state hpass] at hfirst
            rw [steps_cons, hfirst]
            exact hts

end Checks

/-- A run that is not broken off is a number of steps. -/
theorem exists_steps_of_run {b : Bounds} {p : Plan Answer α} {w w' : Timed σ} {a : α}
    (h : run ex b p w = (some a, w')) :
    ∃ ts, steps ex ts ({ plan := p }, w.state) = ({ plan := .done a }, w'.state) := by
  induction p generalizing w with
  | done a' =>
    cases h
    exact ⟨[], rfl⟩
  | ask r next ih =>
    unfold run at h
    split at h
    · rename_i a' w₁ hput
      obtain ⟨hvalue, hstate⟩ := put_eq_some hput
      obtain ⟨ts, hts⟩ := ih a' h
      refine ⟨.zero :: ts, ?_⟩
      rw [steps_cons, step_ask, hstate]
      subst hvalue
      exact hts
    · cases h
  | wait policy r stop next gaveUp ih ih' =>
    have hrest : ∀ e w₁, await ex b policy r stop w = (some e, w₁) →
        ∃ ts, steps ex ts ({ plan := resumed next gaveUp e }, w₁.state) =
          ({ plan := .done a }, w'.state) := by
      intro e w₁ hawait
      rw [run, hawait] at h
      cases e with
      | ready a' ha => exact ih a' ha h
      | gaveUp rep => exact ih' rep h
    cases hawait : await ex b policy r stop w with
    | mk e w₁ =>
      cases e with
      | none =>
        rw [run, hawait] at h
        cases h
      | some e =>
        obtain ⟨ts', hts'⟩ := hrest e w₁ hawait
        cases hforbids : policy.limit.forbids with
        | true =>
          rw [await, hforbids, if_pos rfl] at hawait
          cases hawait
          refine ⟨.zero :: ts', ?_⟩
          have hfirst : step ex .zero { plan := .wait policy r stop next gaveUp } w.state =
              ({ plan := gaveUp ⟨0, .zero⟩ }, w.state) := if_pos hforbids
          rw [steps_cons, hfirst]
          exact hts'
        | false =>
          rw [await, hforbids, if_neg Bool.false_ne_true] at hawait
          obtain ⟨ts, hts⟩ := exists_steps_of_checks next gaveUp hforbids hawait
          exact ⟨ts ++ ts', by rw [steps_append, hts, hts']⟩

/-- A plan that ends takes steps to its end. -/
theorem Ends.exists_steps {p : Plan Answer α} {s s' : σ} {a : α} (h : Ends ex p s a s') :
    ∃ ts, steps ex ts ({ plan := p }, s) = ({ plan := .done a }, s') := by
  obtain ⟨most, h⟩ := h
  obtain ⟨now', hrun⟩ := h { checks := most } rfl (Nat.le_refl most) .zero
  exact exists_steps_of_run hrun

/-! ## Questions -/

/-- The plan puts a question, and after the answer it is `p'` and the executor is in `s'`. -/
def Asks (ex : Executor Answer σ) (p : Plan Answer α) (s : σ) (p' : Plan Answer α) (s' : σ) : Prop :=
  ∃ r next, p = .ask r next ∧ next (ex r s).value = p' ∧ (ex r s).state = s'

namespace Asks

variable {p p' : Plan Answer α} {s s' s'' : σ} {a : α}

theorem ends (h : Asks ex p s p' s') (h' : Ends ex p' s' a s'') : Ends ex p s a s'' := by
  obtain ⟨r, next, rfl, rfl, rfl⟩ := h
  exact Ends.ask h'

theorem step (h : Asks ex p s p' s') (made : Nat) (elapsed : Duration) :
    Underway.step ex elapsed ⟨p, made⟩ s = ({ plan := p' }, s') := by
  obtain ⟨r, next, rfl, rfl, rfl⟩ := h
  rfl

theorem bind {p p' : Plan Answer α} (h : Asks ex p s p' s') (k : α → Plan Answer β) :
    Asks ex (p.bind k) s (p'.bind k) s' := by
  obtain ⟨r, next, rfl, rfl, rfl⟩ := h
  exact ⟨r, fun a => (next a).bind k, rfl, rfl, rfl⟩

end Asks

/-- An action that is attempted goes on with its outcome. -/
theorem run_attempt_bind (x : Tmux.Action α) (f : Except Tmux.Error α → Tmux.Action β) :
    (x.attempt >>= f).run = x.run.bind fun r => (f r).run :=
  Plan.bind_assoc ..

/-- The plan asks `most` questions at most, and never waits. -/
inductive Short : Nat → Plan Answer α → Prop where
  | done (most : Nat) (a : α) : Short most (.done a)
  | ask {most : Nat} {r : ρ} {next : Answer r → Plan Answer α} (h : ∀ a, Short most (next a)) :
      Short (most + 1) (.ask r next)

theorem Short.mono {most most' : Nat} {p : Plan Answer α} (h : Short most p) (hle : most ≤ most') :
    Short most' p := by
  induction h generalizing most' with
  | done most a => exact .done most' a
  | @ask most r next _ ih =>
    obtain ⟨n, rfl⟩ := Nat.exists_eq_add_of_le' (Nat.le_trans (Nat.le_add_left 1 most) hle)
    exact .ask fun a => ih a (Nat.le_of_succ_le_succ hle)

theorem Short.bind {m n : Nat} {p : Plan Answer α} {f : α → Plan Answer β} (h : Short m p)
    (h' : ∀ a, Short n (f a)) : Short (m + n) (p.bind f) := by
  induction h with
  | done most a => exact (h' a).mono (Nat.le_add_left n most)
  | @ask most r next _ ih =>
    rw [Nat.add_right_comm]
    exact .ask ih

theorem Short.seq {m n : Nat} {x : Tmux.Action α} {f : α → Tmux.Action β} (h : Short m x.run)
    (h' : ∀ a, Short n (f a).run) : Short (m + n) (x >>= f).run := by
  refine h.bind fun r => ?_
  cases r with
  | ok a => exact h' a
  | error e => exact .done n _

variable (ex) in
theorem Short.step {most : Nat} {u : Underway Answer α} (h : Short most u.plan) (elapsed : Duration)
    (s : σ) : Short (most - 1) (u.step ex elapsed s).1.plan := by
  obtain ⟨p, made⟩ := u
  cases h with
  | done most a => exact .done _ a
  | ask h => exact h _

theorem Short.isSome_result? {u : Underway Answer α} (h : Short 0 u.plan) :
    u.result?.isSome = true := by
  obtain ⟨p, made⟩ := u
  cases h
  rfl

/-! ## Polls -/

section Poll

open Tmux

variable {policy : Poll.Policy} {r : Exec.Request} {view : Exec.Answer r → Except Exec.Error α}
  {check : α → Option β} {gaveUp : Poll.Report → Action β} {ex : Executor Exec.Answer σ} {s : σ}
  {γ : Type} {k : Except Error β → Exec.Procedure γ}

variable (check) in
theorem settles_view {a : α} (hview : view (ex r s).value = .ok a) :
    settles (((view (ex r s).value).mapError Error.exec).map check) = (check a).isSome := by
  rw [hview]
  change settles (Except.ok (check a) : Except Error (Option β)) = _
  cases check a <;> rfl

variable (hallowed : policy.limit.forbids = false) {t : Duration} {made : Nat} {a : α}
  (hview : view (ex r s).value = .ok a)
include hallowed hview

/-- A check of a poll. -/
theorem step_pollOn :
    step ex t ⟨(Action.pollOn policy r view check gaveUp).run.bind k, made⟩ s =
      (match check a with
        | some b => { plan := k (.ok b) }
        | none =>
          if policy.limit.spent (made + 1) t then { plan := (gaveUp ⟨made + 1, t⟩).run.bind k }
          else ⟨(Action.pollOn policy r view check gaveUp).run.bind k, made + 1⟩, (ex r s).state) := by
  have hsettles := settles_view check hview
  refine (step_wait ex t hallowed made s).trans ?_
  cases hcheck : check a with
  | some b =>
    rw [hcheck] at hsettles
    refine (dif_pos hsettles).trans ?_
    refine congrArg (fun p => (({ plan := p } : Underway Exec.Answer γ), (ex r s).state)) ?_
    have hfound : ((view (ex r s).value).mapError Error.exec).map check = .ok (some b) := by
      rw [hview]
      exact congrArg Except.ok hcheck
    dsimp only
    split
    · rename_i b' hb'
      cases hfound.symm.trans hb'
      rfl
    · rename_i e he
      cases hfound.symm.trans he
    · rename_i hnone
      cases hfound.symm.trans hnone
  | none =>
    rw [hcheck] at hsettles
    refine (dif_neg fun h => Bool.false_ne_true (hsettles.symm.trans h)).trans ?_
    dsimp only
    split <;> rfl

end Poll

end PaneRunner.Plan
