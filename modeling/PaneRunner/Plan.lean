import PaneRunner.Poll

/-
  Plans: procedures that ask an executor one request at a time and may wait for an answer they
  like. A plan is finite although its waits need not be: a wait is one node that says what to
  ask, which answers end it, and how to go on. `run` follows a plan with an executor on a virtual
  clock; `run_bind` runs two plans in a row.
-/
namespace PaneRunner

/-- A procedure that ends in an `α`; `Answer r` is what a request `r` is answered with. -/
inductive Plan {ρ : Type} (Answer : ρ → Type) (α : Type) where
  /-- finished -/
  | done (value : α)
  /-- ask once -/
  | ask (r : ρ) (next : Answer r → Plan Answer α)
  /-- ask again and again until an answer satisfies `stop` or the policy gives up -/
  | wait (policy : Poll.Policy) (r : ρ) (stop : Answer r → Bool)
      (next : (a : Answer r) → stop a = true → Plan Answer α)
      (gaveUp : Poll.Report → Plan Answer α)

namespace Plan

variable {ρ : Type} {Answer : ρ → Type} {α β γ σ : Type}

/-- One plan, then another that depends on its value. -/
def bind : Plan Answer α → (α → Plan Answer β) → Plan Answer β
  | .done a, f => f a
  | .ask r next, f => .ask r fun a => (next a).bind f
  | .wait policy r stop next gaveUp, f =>
    .wait policy r stop (fun a h => (next a h).bind f) (fun rep => (gaveUp rep).bind f)

instance : Monad (Plan Answer) where
  pure := .done
  bind := bind

theorem bind_done (p : Plan Answer α) : p.bind .done = p := by
  induction p with
  | done a => rfl
  | ask r next ih => simp only [bind, ih]
  | wait policy r stop next gaveUp ih ih' => simp only [bind, ih, ih']

theorem bind_assoc (p : Plan Answer α) (f : α → Plan Answer β) (g : β → Plan Answer γ) :
    (p.bind f).bind g = p.bind fun a => (f a).bind g := by
  induction p with
  | done a => rfl
  | ask r next ih => simp only [bind, ih]
  | wait policy r stop next gaveUp ih ih' => simp only [bind, ih, ih']

instance : LawfulMonad (Plan Answer) :=
  LawfulMonad.mk' (Plan Answer) bind_done (fun _ _ => rfl) bind_assoc

/-- Ask once, and finish with the answer. -/
def request (r : ρ) : Plan Answer (Answer r) := .ask r .done

/-- An answer that a wait is looking for, or that ends it with an error. -/
def settles {ε : Type} : Except ε (Option β) → Bool
  | .ok none => false
  | _ => true

/-- Ask until `check` finds a value in the answer or fails, or the policy gives up. -/
def pollUntil {ε : Type} (policy : Poll.Policy) (r : ρ) (check : Answer r → Except ε (Option β)) :
    Plan Answer (Except ε (Poll.Outcome β)) :=
  .wait policy r (fun a => settles (check a))
    (fun a h => match hc : check a with
      | .ok (some b) => .done (.ok (.ready b))
      | .error e => .done (.error e)
      | .ok none => absurd h (by simp [hc, settles]))
    (fun rep => .done (.ok (.exhausted rep)))

end Plan

/-- An executor's reply to one request: the answer, the time it took, and its next state. -/
structure Reply (α σ : Type) where
  value : α
  took : Duration := .zero
  state : σ

/-- The same reply with its value turned into another. -/
def Reply.map {α β σ : Type} (f : α → β) (r : Reply α σ) : Reply β σ :=
  { value := f r.value, took := r.took, state := r.state }

/-- An executor answers every request and may remember what it was asked. -/
def Executor {ρ : Type} (Answer : ρ → Type) (σ : Type) : Type :=
  (r : ρ) → σ → Reply (Answer r) σ

/-- An executor's state and the time on its clock. -/
structure Timed (σ : Type) where
  state : σ
  now : Duration := .zero

/-- The bounds of a run: the time at which it is broken off, if any, the longest pause that its timer
can be set to, if it is a timer that makes the pauses, and the most checks that one wait may make. -/
structure Bounds where
  deadline : Option Duration := none
  pause : Option Duration := none
  checks : Nat

/-- The longest time that a timer can be set to: thirty years of 365 days. -/
def timerLimit : Duration := .ofSecs (30 * 365 * 86400)

/-- How long a timer takes that is set to `d`. It counts whole milliseconds, of which it takes the
next, and it cannot be set to more than `longest`. -/
def Duration.onTimer (d longest : Duration) : Duration :=
  let whole := .ofMillis ((d.nanos + 999999) / 1000000)
  if longest < whole then longest else whole

namespace Timed

variable {σ : Type}

/-- How long a pause is: as the timer makes it, if there is one. -/
def cut (b : Bounds) (d : Duration) : Duration :=
  match b.pause with
  | some longest => d.onTimer longest
  | none => d

/-- Let time pass; past the deadline the clock stays there and the run is broken off. -/
def pass (b : Bounds) (d : Duration) (w : Timed σ) : Bool × Timed σ :=
  match b.deadline with
  | some limit => if limit < w.now + d then (false, ⟨w.state, limit⟩) else (true, ⟨w.state, w.now + d⟩)
  | none => (true, ⟨w.state, w.now + d⟩)

end Timed

namespace Plan

variable {ρ : Type} {Answer : ρ → Type} {α β γ σ : Type}

/-- Put one request to the executor; `none` if the run was broken off meanwhile. -/
def put (ex : Executor Answer σ) (b : Bounds) (r : ρ) (w : Timed σ) :
    Option (Answer r) × Timed σ :=
  let reply := ex r w.state
  match Timed.pass b reply.took ⟨reply.state, w.now⟩ with
  | (true, w) => (some reply.value, w)
  | (false, w) => (none, w)

/-- What ends a wait. -/
inductive WaitEnd {ρ : Type} (Answer : ρ → Type) (r : ρ) (stop : Answer r → Bool) where
  | ready (a : Answer r) (h : stop a = true)
  | gaveUp (report : Poll.Report)

/-- Check after check, `fuel` of them at most. `made` were made since `start`. -/
def checks (ex : Executor Answer σ) (b : Bounds) (policy : Poll.Policy) (r : ρ)
    (stop : Answer r → Bool) (start : Duration) :
    Nat → Nat → Timed σ → Option (WaitEnd Answer r stop) × Timed σ
  | 0, _, w => (none, w)
  | fuel + 1, made, w =>
    match put ex b r w with
    | (none, w) => (none, w)
    | (some a, w) =>
      if h : stop a = true then (some (.ready a h), w)
      else if policy.limit.spent (made + 1) (w.now - start) then
        (some (.gaveUp ⟨made + 1, w.now - start⟩), w)
      else match w.pass b (Timed.cut b policy.interval) with
        | (false, w) => (none, w)
        | (true, w) => checks ex b policy r stop start fuel (made + 1) w

/-- A whole wait from now on. -/
def await (ex : Executor Answer σ) (b : Bounds) (policy : Poll.Policy) (r : ρ)
    (stop : Answer r → Bool) (w : Timed σ) : Option (WaitEnd Answer r stop) × Timed σ :=
  if policy.limit.forbids then (some (.gaveUp ⟨0, .zero⟩), w)
  else checks ex b policy r stop w.now b.checks 0 w

/-- Follow a plan to its end; `none` if the run was broken off. -/
def run (ex : Executor Answer σ) (b : Bounds) : Plan Answer α → Timed σ → Option α × Timed σ
  | .done a, w => (some a, w)
  | .ask r next, w =>
    match put ex b r w with
    | (some a, w) => run ex b (next a) w
    | (none, w) => (none, w)
  | .wait policy r stop next gaveUp, w =>
    match await ex b policy r stop w with
    | (some (.ready a h), w) => run ex b (next a h) w
    | (some (.gaveUp rep), w) => run ex b (gaveUp rep) w
    | (none, w) => (none, w)

theorem run_bind (ex : Executor Answer σ) (b : Bounds) (p : Plan Answer α)
    (f : α → Plan Answer β) (w : Timed σ) :
    run ex b (p.bind f) w = match run ex b p w with
      | (some a, w) => run ex b (f a) w
      | (none, w) => (none, w) := by
  induction p generalizing w with
  | done a => rfl
  | ask r next ih =>
    simp only [bind, run]
    split <;> simp [*]
  | wait policy r stop next gaveUp ih ih' =>
    simp only [bind, run]
    split <;> simp [*]

end Plan

end PaneRunner
