import PaneRunner.Proofs.Trace.Plans
import PaneRunner.Tmux.View

/-
  Traces of actions. An action in a row with another is broken off, fails, or goes on
  (`Traces.of_seq`); a request is one exchange (`Traces.of_answer`); a poll is broken off, finds what
  it looks for, meets a failure, or gives up (`Polled`, `Traces.of_pollOn`).
-/
namespace PaneRunner.Plan

open Tmux

variable {α β : Type} {t : List (Exchange Exec.Answer)}

/-! ## What a trace of an action is -/

theorem Traces.of_ofExcept {r : Except Error α} {v : Option (Except Error α)}
    (h : Traces (Action.ofExcept r).run t v) : t = [] ∧ v = some r := by
  cases h
  exact ⟨rfl, rfl⟩

theorem Traces.of_pure {a : α} {v : Option (Except Error α)}
    (h : Traces (Pure.pure a : Action α).run t v) : t = [] ∧ v = some (.ok a) := of_ofExcept h

theorem Traces.of_throw {e : Error} {v : Option (Except Error α)}
    (h : Traces (throw e : Action α).run t v) : t = [] ∧ v = some (.error e) := of_ofExcept h

theorem Traces.of_ofExcept_seq {r : Except Error α} {f : α → Action β} {v : Option (Except Error β)}
    (h : Traces (Action.ofExcept r >>= f).run t v) :
    (∃ e, r = .error e ∧ t = [] ∧ v = some (.error e)) ∨
      ∃ a, r = .ok a ∧ Traces (f a).run t v := by
  cases r with
  | error e =>
    obtain ⟨rfl, rfl⟩ := of_ofExcept (r := (.error e : Except Error β)) h
    exact Or.inl ⟨e, rfl, rfl, rfl⟩
  | ok a => exact Or.inr ⟨a, rfl, h⟩

/-- The first action is broken off, fails, or is followed by the second. -/
theorem Traces.of_seq {x : Action α} {f : α → Action β} {v : Option (Except Error β)}
    (h : Traces (x >>= f).run t v) :
    (v = none ∧ Traces x.run t none) ∨
      (∃ e, v = some (.error e) ∧ Traces x.run t (some (.error e))) ∨
        ∃ t₁ t₂ a, t = t₁ ++ t₂ ∧ Traces x.run t₁ (some (.ok a)) ∧ Traces (f a).run t₂ v := by
  rcases of_bind (f := ExceptT.bindCont f) h with ⟨hv, h⟩ | ⟨t₁, t₂, r, rfl, h₁, h₂⟩
  · exact Or.inl ⟨hv, h⟩
  cases r with
  | error e =>
    obtain ⟨rfl, rfl⟩ := of_ofExcept (r := (.error e : Except Error β)) h₂
    rw [List.append_nil]
    exact Or.inr (Or.inl ⟨e, rfl, h₁⟩)
  | ok a => exact Or.inr (Or.inr ⟨t₁, t₂, a, rfl, h₁, h₂⟩)

theorem Traces.of_attempt {x : Action α} {v : Option (Except Error (Except Error α))}
    (h : Traces x.attempt.run t v) :
    (v = none ∧ Traces x.run t none) ∨ ∃ r, v = some (.ok r) ∧ Traces x.run t (some r) := by
  rcases of_bind h with ⟨hv, h⟩ | ⟨t₁, t₂, r, rfl, h₁, h₂⟩
  · exact Or.inl ⟨hv, h⟩
  · cases h₂
    rw [List.append_nil]
    exact Or.inr ⟨r, rfl, h₁⟩

/-- A request is one exchange. -/
theorem Traces.of_answer {r : Exec.Request} (view : Exec.Answer r → Except Exec.Error α)
    {v : Option (Except Error α)}
    (h : Traces (Action.ofAnswer (.ask r fun a => .done (view a))).run t v) :
    ∃ a, t = [⟨r, a⟩] ∧ (v = none ∨ v = some ((view a).mapError .exec)) := by
  cases h with
  | ask a h =>
    cases h
    exact ⟨a, rfl, Or.inr rfl⟩
  | askCut a => exact ⟨a, rfl, Or.inl rfl⟩

/-- A request is broken off or fails, or another action follows it. -/
theorem Traces.of_answer_seq {r : Exec.Request} (view : Exec.Answer r → Except Exec.Error α)
    {f : α → Action β} {v : Option (Except Error β)}
    (h : Traces (Action.ofAnswer (.ask r fun a => .done (view a)) >>= f).run t v) :
    (∃ a, t = [⟨r, a⟩] ∧ (v = none ∨ ∃ e, view a = .error e ∧ v = some (.error (.exec e)))) ∨
      ∃ a x t', t = ⟨r, a⟩ :: t' ∧ view a = .ok x ∧ Traces (f x).run t' v := by
  rcases of_seq h with ⟨hv, h⟩ | ⟨e, hv, h⟩ | ⟨t₁, t₂, x, rfl, h₁, h₂⟩
  · obtain ⟨a, rfl, -⟩ := of_answer view h
    exact Or.inl ⟨a, rfl, Or.inl hv⟩
  · obtain ⟨a, rfl, hnone | hview⟩ := of_answer view h
    · cases hnone
    · rcases hanswer : view a with e' | x
      · rw [hanswer] at hview
        cases hview
        exact Or.inl ⟨a, rfl, Or.inr ⟨e', hanswer, hv⟩⟩
      · rw [hanswer] at hview
        cases hview
  · obtain ⟨a, rfl, hnone | hview⟩ := of_answer view h₁
    · cases hnone
    · rcases hanswer : view a with e | x'
      · rw [hanswer] at hview
        cases hview
      · rw [hanswer] at hview
        cases hview
        exact Or.inr ⟨a, x, t₂, rfl, hanswer, h₂⟩

/-- An action whose failure is a value is broken off, or another action follows it. -/
theorem Traces.of_attempt_seq {x : Action α} {f : Except Error α → Action β}
    {v : Option (Except Error β)} (h : Traces (x.attempt >>= f).run t v) :
    (v = none ∧ Traces x.run t none) ∨
      ∃ t₁ t₂ r, t = t₁ ++ t₂ ∧ Traces x.run t₁ (some r) ∧ Traces (f r).run t₂ v := by
  rcases of_seq h with ⟨hv, h⟩ | ⟨e, -, h⟩ | ⟨t₁, t₂, r, rfl, h₁, h₂⟩
  · rcases of_attempt h with ⟨-, h⟩ | ⟨r, hr, -⟩
    · exact Or.inl ⟨hv, h⟩
    · cases hr
  · rcases of_attempt h with ⟨he, -⟩ | ⟨r, he, -⟩ <;> cases he
  · rcases of_attempt h₁ with ⟨hr, -⟩ | ⟨r', hr, h₁⟩
    · cases hr
    · cases hr
      exact Or.inr ⟨t₁, t₂, r, rfl, h₁, h₂⟩

/-- A request whose failure is a value is one exchange, and another action follows it unless it is
broken off. -/
theorem Traces.of_tried_seq {r : Exec.Request} (view : Exec.Answer r → Except Exec.Error α)
    {f : Except Error α → Action β} {v : Option (Except Error β)}
    (h : Traces ((Action.ofAnswer (.ask r fun a => .done (view a))).attempt >>= f).run t v) :
    ∃ a t', t = ⟨r, a⟩ :: t' ∧
      ((v = none ∧ t' = []) ∨ Traces (f ((view a).mapError .exec)).run t' v) := by
  rcases of_attempt_seq h with ⟨hv, h⟩ | ⟨t₁, t₂, x, rfl, h₁, h₂⟩
  · obtain ⟨a, rfl, -⟩ := of_answer view h
    exact ⟨a, [], rfl, Or.inl ⟨hv, rfl⟩⟩
  · obtain ⟨a, rfl, hx | hx⟩ := of_answer view h₁
    · cases hx
    · cases hx
      exact ⟨a, t₂, rfl, Or.inr h₂⟩

/-! ## Polls -/

/-- What a poll exchanges, and how it ends. -/
inductive Polled (policy : Poll.Policy) (r : Exec.Request)
    (view : Exec.Answer r → Except Exec.Error α) (check : α → Option β)
    (gaveUp : Poll.Report → Action β) :
    List (Exchange Exec.Answer) → Option (Except Error β) → Prop where
  | cut (answers : List (Exec.Answer r)) :
      Polled policy r view check gaveUp (answers.map (Sigma.mk r)) none
  | found {misses : List (Exec.Answer r)}
      (hmisses : ∀ a ∈ misses, ∃ x, view a = .ok x ∧ check x = none)
      {a : Exec.Answer r} {x : α} (hview : view a = .ok x) {found : β}
      (hcheck : check x = some found) :
      Polled policy r view check gaveUp (misses.map (Sigma.mk r) ++ [⟨r, a⟩]) (some (.ok found))
  | failed {misses : List (Exec.Answer r)}
      (hmisses : ∀ a ∈ misses, ∃ x, view a = .ok x ∧ check x = none)
      {a : Exec.Answer r} {e : Exec.Error} (hview : view a = .error e) :
      Polled policy r view check gaveUp (misses.map (Sigma.mk r) ++ [⟨r, a⟩])
        (some (.error (.exec e)))
  | gaveUp {misses : List (Exec.Answer r)}
      (hmisses : ∀ a ∈ misses, ∃ x, view a = .ok x ∧ check x = none) {rep : Poll.Report}
      (hrep : policy.limit.Exhausts rep) (hlength : misses.length = rep.attempts)
      {t : List (Exchange Exec.Answer)} {v : Option (Except Error β)}
      (h : Traces (gaveUp rep).run t v) :
      Polled policy r view check gaveUp (misses.map (Sigma.mk r) ++ t) v

section Poll

variable {policy : Poll.Policy} {r : Exec.Request} {view : Exec.Answer r → Except Exec.Error α}
  {check : α → Option β} {gaveUp : Poll.Report → Action β}

theorem exists_of_map_mapError {a : Except Exec.Error α} {found : Option β}
    (h : (a.mapError Error.exec).map check = .ok found) : ∃ x, a = .ok x ∧ check x = found := by
  cases a with
  | error e => cases h
  | ok x =>
    cases h
    exact ⟨x, rfl, rfl⟩

theorem error_of_map_mapError {a : Except Exec.Error α} {e : Error}
    (h : (a.mapError Error.exec).map check = .error e) : ∃ e', a = .error e' ∧ .exec e' = e := by
  cases a with
  | error e' =>
    cases h
    exact ⟨e', rfl, rfl⟩
  | ok x => cases h

/-- An answer that does not settle a poll is a good one that its check does not accept. -/
theorem settles_eq_false {a : Except Exec.Error α}
    (h : settles ((a.mapError Error.exec).map check) = false) :
    ∃ x, a = .ok x ∧ check x = none := by
  rcases hfound : (a.mapError Error.exec).map check with e | _ | found
  · rw [hfound] at h
    cases h
  · exact exists_of_map_mapError hfound
  · rw [hfound] at h
    cases h

/-- What a poll comes to before its report is looked at. -/
theorem Traces.of_pollUntil {v : Option (Except Error (Poll.Outcome β))}
    (h : Traces (pollUntil policy r fun a => ((view a).mapError Error.exec).map check) t v) :
    (v = none ∧ ∃ answers : List (Exec.Answer r), t = answers.map (Sigma.mk r)) ∨
      ∃ misses : List (Exec.Answer r), (∀ a ∈ misses, ∃ x, view a = .ok x ∧ check x = none) ∧
        ((∃ a x found, t = misses.map (Sigma.mk r) ++ [⟨r, a⟩] ∧ view a = .ok x ∧
            check x = some found ∧ v = some (.ok (.ready found))) ∨
          (∃ a e, t = misses.map (Sigma.mk r) ++ [⟨r, a⟩] ∧ view a = .error e ∧
            v = some (.error (.exec e))) ∨
          ∃ rep, t = misses.map (Sigma.mk r) ∧ policy.limit.Exhausts rep ∧
            misses.length = rep.attempts ∧ v = some (.ok (.exhausted rep))) := by
  unfold pollUntil at h
  cases h with
  | ready hmisses ha h =>
    refine Or.inr ⟨_, fun a ha => settles_eq_false (hmisses a ha), ?_⟩
    dsimp only at h
    split at h
    · rename_i hfound
      cases h
      obtain ⟨x, hview, hcheck⟩ := exists_of_map_mapError hfound
      exact Or.inl ⟨_, x, _, rfl, hview, hcheck, rfl⟩
    · rename_i herror
      cases h
      obtain ⟨e, hview, rfl⟩ := error_of_map_mapError herror
      exact Or.inr (Or.inl ⟨_, e, rfl, hview, rfl⟩)
    · rename_i hnone
      exact absurd ha (by simp [hnone, settles])
  | gaveUp hmisses hrep hlength h =>
    cases h
    rw [List.append_nil]
    exact Or.inr ⟨_, fun a ha => settles_eq_false (hmisses a ha),
      Or.inr (Or.inr ⟨_, rfl, hrep, hlength, rfl⟩)⟩
  | waitCut answers => exact Or.inl ⟨rfl, answers, rfl⟩

theorem Traces.of_pollOn {v : Option (Except Error β)}
    (h : Traces (Action.pollOn policy r view check gaveUp).run t v) :
    Polled policy r view check gaveUp t v := by
  rcases of_bind h with ⟨rfl, hcut⟩ | ⟨t₁, t₂, outcome, rfl, h₁, h₂⟩
  · rcases of_pollUntil hcut with ⟨-, answers, rfl⟩ | ⟨misses, -, hend | hend | hend⟩
    · exact .cut answers
    all_goals simp at hend
  · rcases of_pollUntil h₁ with ⟨hv, -⟩ | ⟨misses, hmisses, hend | hend | hend⟩
    · cases hv
    · obtain ⟨a, x, found, rfl, hview, hcheck, hv⟩ := hend
      cases hv
      cases h₂
      rw [List.append_nil]
      exact .found hmisses hview hcheck
    · obtain ⟨a, e, rfl, hview, hv⟩ := hend
      cases hv
      cases h₂
      rw [List.append_nil]
      exact .failed hmisses hview
    · obtain ⟨rep, rfl, hrep, hlength, hv⟩ := hend
      cases hv
      exact .gaveUp hmisses hrep hlength h₂

/-- A poll that ends has found what it looks for, met a failure, or given up. -/
theorem Polled.of_some {result : Except Error β}
    (h : Polled policy r view check gaveUp t (some result)) :
    ∃ misses : List (Exec.Answer r), (∀ a ∈ misses, ∃ x, view a = .ok x ∧ check x = none) ∧
      ((∃ a x found, t = misses.map (Sigma.mk r) ++ [⟨r, a⟩] ∧ view a = .ok x ∧
          check x = some found ∧ result = .ok found) ∨
        (∃ a e, t = misses.map (Sigma.mk r) ++ [⟨r, a⟩] ∧ view a = .error e ∧
          result = .error (.exec e)) ∨
        ∃ rep t', t = misses.map (Sigma.mk r) ++ t' ∧ policy.limit.Exhausts rep ∧
          misses.length = rep.attempts ∧ Traces (gaveUp rep).run t' (some result)) := by
  cases h with
  | found hmisses hview hcheck =>
    exact ⟨_, hmisses, Or.inl ⟨_, _, _, rfl, hview, hcheck, rfl⟩⟩
  | failed hmisses hview => exact ⟨_, hmisses, Or.inr (Or.inl ⟨_, _, rfl, hview, rfl⟩)⟩
  | gaveUp hmisses hrep hlength h =>
    exact ⟨_, hmisses, Or.inr (Or.inr ⟨_, _, rfl, hrep, hlength, h⟩)⟩

end Poll

/-! ## Requests of actions -/

section Within

variable {P : Exec.Request → Prop}

theorem Within.ofExcept (r : Except Error α) : Within P (Action.ofExcept r).run := .done r

theorem Within.pure (a : α) : Within P (Pure.pure a : Action α).run := ofExcept (.ok a)

theorem Within.throw (e : Error) : Within P (MonadExcept.throw e : Action α).run := ofExcept (.error e)

theorem Within.seq {x : Action α} {f : α → Action β} (hx : Within P x.run)
    (hf : ∀ a, Within P (f a).run) : Within P (x >>= f).run := by
  refine Within.bind (f := ExceptT.bindCont f) hx fun r => ?_
  cases r with
  | error e => exact .done _
  | ok a => exact hf a

theorem Within.attempt {x : Action α} (hx : Within P x.run) : Within P x.attempt.run :=
  Within.bind hx fun r => Within.done (Except.ok r)

theorem Within.tmux (cfg : Settings) {args : List String}
    (h : P (.run { argv := cfg.binary :: args })) : Within P (cfg.tmux args).run :=
  .ask h fun _ => .done _

theorem Within.tmuxAny (cfg : Settings) {args : List String}
    (h : P (.run { argv := cfg.binary :: args, acceptAny := true })) :
    Within P (cfg.tmuxAny args).run :=
  .ask h fun _ => .done _

theorem Within.pollOn {policy : Poll.Policy} {r : Exec.Request}
    {view : Exec.Answer r → Except Exec.Error α} {check : α → Option β}
    {gaveUp : Poll.Report → Action β} (hr : P r) (h : ∀ rep, Within P (gaveUp rep).run) :
    Within P (Action.pollOn policy r view check gaveUp).run := by
  have hpoll : Within P (pollUntil policy r fun a => ((view a).mapError Error.exec).map check) := by
    refine .wait hr (fun a ha => ?_) fun rep => .done _
    split
    · exact .done _
    · exact .done _
    · rename_i hnone
      exact absurd ha (by simp [hnone, settles])
  refine Within.bind hpoll fun outcome => ?_
  rcases outcome with e | found | rep
  · exact .done _
  · exact .done _
  · exact h rep

end Within

/-! ## Runs of actions in a row -/

section Run

variable {σ : Type} (ex : Executor Exec.Answer σ) (b : Bounds)

theorem run_seq (x : Action α) (f : α → Action β) (c : Timed σ) :
    run ex b (x >>= f).run c = match run ex b x.run c with
      | (some (.ok a), c') => run ex b (f a).run c'
      | (some (.error e), c') => (some (.error e), c')
      | (none, c') => (none, c') := by
  change run ex b (Plan.bind x.run (ExceptT.bindCont f)) c = _
  rw [run_bind]
  rcases run ex b x.run c with ⟨_ | _ | a, c'⟩ <;> rfl

/-- What two actions in a row exchange. -/
theorem trace_seq (x : Action α) (f : α → Action β) (c : Timed σ) :
    trace ex b (x >>= f).run c = match run ex b x.run c with
      | (some (.ok a), c') => trace ex b x.run c ++ trace ex b (f a).run c'
      | _ => trace ex b x.run c := by
  change trace ex b (Plan.bind x.run (ExceptT.bindCont f)) c = _
  rw [trace_bind]
  rcases run ex b x.run c with ⟨_ | e | a, c'⟩
  · rfl
  · exact List.append_nil _
  · rfl

theorem trace_isPrefix_seq (x : Action α) (f : α → Action β) (c : Timed σ) :
    trace ex b x.run c <+: trace ex b (x >>= f).run c := by
  rw [trace_seq]
  rcases run ex b x.run c with ⟨_ | e | a, c'⟩
  · exact List.prefix_rfl
  · exact List.prefix_rfl
  · exact List.prefix_append _ _

variable {ex b}

theorem trace_seq_of_not_ok {x : Action α} {c : Timed σ} (f : α → Action β)
    (h : ∀ a, (run ex b x.run c).1 ≠ some (.ok a)) :
    trace ex b (x >>= f).run c = trace ex b x.run c := by
  rw [trace_seq]
  rcases hrun : run ex b x.run c with ⟨_ | e | a, c'⟩
  · rfl
  · rfl
  · rw [hrun] at h
    exact absurd rfl (h a)

theorem run_seq_error {x : Action α} {c : Timed σ} (f : α → Action β) {e : Error}
    (h : (run ex b x.run c).1 = some (.error e)) :
    (run ex b (x >>= f).run c).1 = some (.error e) := by
  rw [run_seq]
  rcases hrun : run ex b x.run c with ⟨v, c'⟩
  rw [hrun] at h
  obtain rfl : v = some (.error e) := h
  rfl

theorem run_seq_none {x : Action α} {c : Timed σ} (f : α → Action β)
    (h : (run ex b x.run c).1 = none) : (run ex b (x >>= f).run c).1 = none := by
  rw [run_seq]
  rcases hrun : run ex b x.run c with ⟨v, c'⟩
  rw [hrun] at h
  obtain rfl : v = none := h
  rfl

variable (ex b)

/-- A poll of so many attempts at most ends if no deadline breaks it off. -/
theorem pollOn_ne_none {policy : Poll.Policy} {r : Exec.Request}
    {view : Exec.Answer r → Except Exec.Error α} {check : α → Option β}
    {gaveUp : Poll.Report → Action β} (hb : b.deadline = none) {most : Nat}
    (hlimit : policy.limit = .attempts most) (hmost : most ≤ b.checks)
    (hgaveUp : ∀ rep c, (run ex b (gaveUp rep).run c).1 ≠ none) (c : Timed σ) :
    (run ex b (Action.pollOn policy r view check gaveUp).run c).1 ≠ none := by
  have hpoll : ∀ c, (run ex b
      (pollUntil policy r fun a => ((view a).mapError Error.exec).map check) c).1 ≠ none := by
    intro c
    have hawait := fun stop => await_ne_none ex b hb hlimit hmost r stop c
    rw [pollUntil, run]
    rcases hended : await ex b policy r _ c with ⟨_ | ⟨a, ha⟩ | rep, c'⟩
    · exact absurd (congrArg Prod.fst hended) (hawait _)
    · dsimp only
      split
      · simp [run]
      · simp [run]
      · rename_i hnone
        exact absurd ha (by simp [hnone, settles])
    · simp [run]
  change (run ex b (Plan.bind _ _) c).1 ≠ none
  rw [run_bind]
  rcases hended : run ex b (pollUntil policy r _) c with ⟨_ | e | found | rep, c'⟩
  · exact absurd (congrArg Prod.fst hended) (hpoll c)
  · simp [run]
  · simp [run]
  · exact hgaveUp rep c'

end Run

end PaneRunner.Plan
