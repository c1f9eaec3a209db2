import PaneRunner.Proofs.Trace.Actions

/-
  What a run can come to, whatever the executor answers. `Yields P p`: every value that the plan `p`
  may end with satisfies `P` (`yields_run`). Of an action, `Outcome E Q` says it of its errors and of
  its values: in a row the errors of all of them can come out, and the values of the last
  (`Yields.seq`). `Alike R p q` compares two plans run by run: nothing tells their runs apart but the
  values, and those are related by `R`. Plans that part only when the last answer is there are alike
  if what they make of it is related (`alike_of_yields`).
-/
namespace PaneRunner.Plan

section Values

variable {ρ : Type} {Answer : ρ → Type} {α β σ : Type} {P : α → Prop} {Q : β → Prop}

/-- Every value that the plan may end with satisfies `P`. -/
inductive Yields (P : α → Prop) : Plan Answer α → Prop where
  | done {a : α} (h : P a) : Yields P (.done a)
  | ask {r : ρ} {next : Answer r → Plan Answer α} (h : ∀ a, Yields P (next a)) :
      Yields P (.ask r next)
  | wait {policy : Poll.Policy} {r : ρ} {stop : Answer r → Bool}
      {next : (a : Answer r) → stop a = true → Plan Answer α} {gaveUp : Poll.Report → Plan Answer α}
      (h : ∀ a ha, Yields P (next a ha)) (h' : ∀ rep, Yields P (gaveUp rep)) :
      Yields P (.wait policy r stop next gaveUp)

theorem Yields.bind {p : Plan Answer α} {f : α → Plan Answer β} (h : Yields P p)
    (hf : ∀ a, P a → Yields Q (f a)) : Yields Q (p.bind f) := by
  induction h with
  | done ha => exact hf _ ha
  | ask _ ih => exact .ask ih
  | wait _ _ ih ih' => exact .wait ih ih'

theorem yields_true (p : Plan Answer α) : Yields (fun _ => True) p := by
  induction p with
  | done a => exact .done trivial
  | ask r next ih => exact .ask ih
  | wait policy r stop next gaveUp ih ih' => exact .wait ih ih'

theorem Traces.yields {p : Plan Answer α} {t : List (Exchange Answer)} {v : Option α}
    (h : Traces p t v) (hp : Yields P p) : ∀ a, v = some a → P a := by
  induction h with
  | done a =>
    cases hp with
    | done ha => rintro _ ⟨⟩; exact ha
  | ask a _ ih => cases hp with | ask hnext => exact ih (hnext a)
  | ready _ ha _ ih => cases hp with | wait hnext _ => exact ih (hnext _ ha)
  | gaveUp _ _ _ _ ih => cases hp with | wait _ hgaveUp => exact ih (hgaveUp _)
  | askCut | waitCut => intro a ha; cases ha

/-- What a run comes to is among what its plan yields. -/
theorem yields_run {p : Plan Answer α} (hp : Yields P p) (ex : Executor Answer σ) (b : Bounds)
    {c : Timed σ} {a : α} (h : (run ex b p c).1 = some a) : P a :=
  (traces_run ex b p c).yields hp a h

/-! ## Two plans -/

/-- Two runs end alike: both are broken off, both fail in the same way, or they come to values that
`R` relates. -/
inductive SameEnd {ε : Type} (R : α → β → Prop) :
    Option (Except ε α) → Option (Except ε β) → Prop where
  | cut : SameEnd R none none
  | failed (e : ε) : SameEnd R (some (.error e)) (some (.error e))
  | ended {a : α} {b : β} (h : R a b) : SameEnd R (some (.ok a)) (some (.ok b))

theorem SameEnd.of_ok {ε : Type} {R : α → β → Prop} {a : α} {v : Option (Except ε β)}
    (h : SameEnd R (some (.ok a)) v) : ∃ b, v = some (.ok b) ∧ R a b := by
  cases h with
  | ended h => exact ⟨_, rfl, h⟩

/-- With every executor the runs of two plans go alike: the same is asked and answered, they end in
the same state at the same time, and they end alike. -/
def Alike {ε : Type} (R : α → β → Prop) (p : Plan Answer (Except ε α))
    (q : Plan Answer (Except ε β)) : Prop :=
  ∀ {σ : Type} (ex : Executor Answer σ) (b : Bounds) (c : Timed σ),
    trace ex b p c = trace ex b q c ∧ (run ex b p c).2 = (run ex b q c).2 ∧
      SameEnd R (run ex b p c).1 (run ex b q c).1

variable {γ ε : Type} {R : α → β → Prop}

theorem alike_of_yields {I : γ → Prop} {p : Plan Answer γ} (hp : Yields I p) {f : γ → Except ε α}
    {g : γ → Except ε β} (h : ∀ r, I r → SameEnd R (some (f r)) (some (g r))) :
    Alike R (p.bind fun r => .done (f r)) (p.bind fun r => .done (g r)) := by
  intro σ ex b c
  rw [trace_map, trace_map, run_map, run_map]
  refine ⟨rfl, rfl, ?_⟩
  rcases hrun : (run ex b p c).1 with _ | r
  · exact .cut
  · exact h r (yields_run hp ex b hrun)

theorem run_bind_pure (x : ExceptT ε (Plan Answer) α) (f : α → β) :
    (x >>= fun a => pure (f a)).run = x.run.bind fun r => .done (r.map f) := by
  change Plan.bind x.run (ExceptT.bindCont fun a => pure (f a)) = _
  congr 1
  funext r
  cases r <;> rfl

/-- A plan whose value is turned into another goes as the plan does. -/
theorem alike_map (p : Plan Answer (Except ε α)) {f : α → β} (h : ∀ a, R a (f a)) :
    Alike R p (p.bind fun r => .done (r.map f)) := by
  have halike : Alike R (p.bind fun r => .done r) (p.bind fun r => .done (r.map f)) := by
    refine alike_of_yields (yields_true p) fun r _ => ?_
    cases r with
    | error e => exact .failed e
    | ok a => exact .ended (h a)
  rwa [bind_done] at halike

end Values

/-! ## Actions -/

open Tmux

variable {α β : Type} {E : Error → Prop} {P : α → Prop} {Q : β → Prop}

/-- An error that satisfies `E`, or a value that satisfies `P`. -/
def Outcome (E : Error → Prop) (P : α → Prop) : Except Error α → Prop
  | .ok a => P a
  | .error e => E e

theorem Outcome.bind {r : Except Error α} {f : α → Except Error β} (h : Outcome E P r)
    (hf : ∀ a, P a → Outcome E Q (f a)) : Outcome E Q (r >>= f) := by
  cases r with
  | error e => exact h
  | ok a => exact hf a h

namespace Yields

theorem ofExcept {r : Except Error α} (h : Outcome E P r) :
    Yields (Outcome E P) (Action.ofExcept r).run := .done h

theorem pure (a : α) : Yields (Outcome E fun _ => True) (Pure.pure a : Action α).run := .done trivial

theorem throw {e : Error} (h : E e) : Yields (Outcome E P) (MonadExcept.throw e : Action α).run :=
  .done h

theorem seq {x : Action α} {f : α → Action β} (hx : Yields (Outcome E P) x.run)
    (hf : ∀ a, P a → Yields (Outcome E Q) (f a).run) : Yields (Outcome E Q) (x >>= f).run := by
  refine Yields.bind (f := ExceptT.bindCont f) hx fun r hr => ?_
  cases r with
  | error e => exact .done hr
  | ok a => exact hf a hr

theorem attempt {x : Action α} (hx : Yields (Outcome E P) x.run) :
    Yields (Outcome E (Outcome E P)) x.attempt.run :=
  Yields.bind hx fun _ hr => .done hr

theorem ofAnswer (hE : ∀ e, E (.exec e)) (p : Exec.Procedure (Except Exec.Error α)) :
    Yields (Outcome E fun _ => True) (Action.ofAnswer p).run := by
  refine Yields.bind (yields_true p) fun r _ => .done ?_
  cases r with
  | error e => exact hE e
  | ok a => trivial

theorem tmux (hE : ∀ e, E (.exec e)) (cfg : Settings) (args : List String) :
    Yields (Outcome E fun _ => True) (cfg.tmux args).run := ofAnswer hE _

theorem tmuxAny (hE : ∀ e, E (.exec e)) (cfg : Settings) (args : List String) :
    Yields (Outcome E fun _ => True) (cfg.tmuxAny args).run := ofAnswer hE _

theorem pollOn (hE : ∀ e, E (.exec e)) {policy : Poll.Policy} {r : Exec.Request}
    {view : Exec.Answer r → Except Exec.Error α} {check : α → Option β}
    {gaveUp : Poll.Report → Action β} (h : ∀ rep, Yields (Outcome E fun _ => True) (gaveUp rep).run) :
    Yields (Outcome E fun _ => True) (Action.pollOn policy r view check gaveUp).run := by
  have hpoll : Yields (Outcome E fun _ => True)
      (pollUntil policy r fun a => ((view a).mapError Error.exec).map check) := by
    refine .wait (fun a ha => ?_) fun rep => .done trivial
    split
    · exact .done trivial
    · rename_i herror
      obtain ⟨e, -, rfl⟩ := error_of_map_mapError herror
      exact .done (hE e)
    · rename_i hnone
      exact absurd ha (by simp [hnone, settles])
  refine Yields.bind hpoll fun outcome houtcome => ?_
  rcases outcome with e | found | rep
  · exact .done houtcome
  · exact .done trivial
  · exact h rep

end Yields

end PaneRunner.Plan
