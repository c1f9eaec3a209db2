import PaneRunner.Plan

/-
  Plans that end. `Ends` says what a plan comes to and in which state it leaves the executor. It
  holds of every run that is not broken off, however late the clock starts and however long the
  pauses are, once the waits may check often enough; so no two endings differ (`Ends.unique`). A
  wait ends with the first answer that it looks for (`Ends.wait_ready`) or with its last attempt
  (`Ends.wait_gaveUp`). A watched executor notes in which states it was asked for what; a plan goes
  with it as it goes without (`Ends.of_watched`).
-/
namespace PaneRunner

namespace Poll.Limit

/-- The limit lets `m` checks fail. -/
def Allows (limit : Limit) (m : Nat) : Prop :=
  limit.forbids = false ∧ ∀ i < m, ∀ elapsed, limit.spent (i + 1) elapsed = false

theorem allows_unbounded (m : Nat) : Allows .unbounded m := ⟨rfl, fun _ _ _ => rfl⟩

theorem allows_attempts {m most : Nat} (h : m < most) : Allows (.attempts most) m := by
  refine ⟨?_, fun i hi elapsed => ?_⟩
  · simp only [forbids, beq_eq_false_iff_ne]
    omega
  · simp only [spent, decide_eq_false_iff_not]
    omega

end Poll.Limit

namespace Plan

variable {ρ : Type} {Answer : ρ → Type} {α β σ : Type} {ex : Executor Answer σ}

/-- The plan ends with `a` and leaves the executor in `s'`. -/
def Ends (ex : Executor Answer σ) (p : Plan Answer α) (s : σ) (a : α) (s' : σ) : Prop :=
  ∃ most, ∀ b : Bounds, b.deadline = none → most ≤ b.checks → ∀ now,
    ∃ now', run ex b p ⟨s, now⟩ = (some a, ⟨s', now'⟩)

theorem pass_of_deadline {b : Bounds} (hb : b.deadline = none) (d : Duration) (s : σ)
    (now : Duration) : Timed.pass b d ⟨s, now⟩ = (true, ⟨s, now + d⟩) := by
  simp only [Timed.pass, hb]

theorem put_of_deadline {b : Bounds} (hb : b.deadline = none) (r : ρ) (s : σ) (now : Duration) :
    put ex b r ⟨s, now⟩ =
      (some (ex r s).value, ⟨(ex r s).state, now + (ex r s).took⟩) := by
  simp only [put, pass_of_deadline hb]

/-- One check of a wait, when no deadline is near. -/
theorem checks_of_deadline {b : Bounds} (hb : b.deadline = none) (policy : Poll.Policy) (r : ρ)
    (stop : Answer r → Bool) (start : Duration) (fuel made : Nat) (s : σ) (now : Duration) :
    checks ex b policy r stop start (fuel + 1) made ⟨s, now⟩ =
      if h : stop (ex r s).value = true then
        (some (.ready _ h), ⟨(ex r s).state, now + (ex r s).took⟩)
      else if policy.limit.spent (made + 1) (now + (ex r s).took - start) = true then
        (some (.gaveUp ⟨made + 1, now + (ex r s).took - start⟩),
          ⟨(ex r s).state, now + (ex r s).took⟩)
      else checks ex b policy r stop start fuel (made + 1)
        ⟨(ex r s).state, now + (ex r s).took + Timed.cut b policy.interval⟩ := by
  rw [checks, put_of_deadline hb]
  dsimp only
  rw [pass_of_deadline hb]

namespace Ends

theorem done (a : α) (s : σ) : Ends ex (.done a) s a s :=
  ⟨0, fun _ _ _ now => ⟨now, rfl⟩⟩

theorem bind {p : Plan Answer α} {f : α → Plan Answer β} {s s' s'' : σ} {a : α} {c : β}
    (h : Ends ex p s a s') (h' : Ends ex (f a) s' c s'') : Ends ex (p.bind f) s c s'' := by
  obtain ⟨most, h⟩ := h
  obtain ⟨most', h'⟩ := h'
  refine ⟨max most most', fun b hb hmost now => ?_⟩
  obtain ⟨now', hrun⟩ := h b hb (by omega) now
  obtain ⟨now'', hrun'⟩ := h' b hb (by omega) now'
  exact ⟨now'', by rw [run_bind, hrun]; exact hrun'⟩

theorem ask {r : ρ} {next : Answer r → Plan Answer α} {s s' : σ} {a : α}
    (h : Ends ex (next (ex r s).value) (ex r s).state a s') : Ends ex (.ask r next) s a s' := by
  obtain ⟨most, h⟩ := h
  refine ⟨most, fun b hb hmost now => ?_⟩
  rw [run, put_of_deadline hb]
  exact h b hb hmost _

theorem request {r : ρ} {s s' : σ} {a : Answer r} (ha : (ex r s).value = a)
    (hs : (ex r s).state = s') : Ends ex (Plan.request r) s a s' := by
  subst ha hs
  exact ask (done _ _)

/-- A plan has one ending at most. -/
theorem unique {p : Plan Answer α} {s s₁ s₂ : σ} {a₁ a₂ : α} (h₁ : Ends ex p s a₁ s₁)
    (h₂ : Ends ex p s a₂ s₂) : a₁ = a₂ ∧ s₁ = s₂ := by
  obtain ⟨most₁, h₁⟩ := h₁
  obtain ⟨most₂, h₂⟩ := h₂
  obtain ⟨now₁, hrun₁⟩ := h₁ { checks := max most₁ most₂ } rfl (Nat.le_max_left _ _) .zero
  obtain ⟨now₂, hrun₂⟩ := h₂ { checks := max most₁ most₂ } rfl (Nat.le_max_right _ _) .zero
  rw [hrun₁] at hrun₂
  cases hrun₂
  exact ⟨rfl, rfl⟩

end Ends

/-! ## Waits -/

section Wait

variable {policy : Poll.Policy} {r : ρ} {stop : Answer r → Bool} (st : Nat → σ) {m : Nat}

/-- The checks from the `i`-th on, when the `m`-th is the first that goes well. -/
theorem checks_ready (hstep : ∀ i ≤ m, (ex r (st i)).state = st (i + 1))
    (hwait : ∀ i < m, stop (ex r (st i)).value = false) (hstop : stop (ex r (st m)).value = true)
    (hlimit : policy.limit.Allows m) {b : Bounds} (hb : b.deadline = none) (start : Duration)
    {i fuel : Nat} (hi : i ≤ m) (hfuel : m - i < fuel) (now : Duration) :
    ∃ now', checks ex b policy r stop start fuel i ⟨st i, now⟩ =
      (some (.ready _ hstop), ⟨st (m + 1), now'⟩) := by
  induction fuel generalizing i now with
  | zero => omega
  | succ fuel ih =>
    rw [checks_of_deadline hb]
    rcases Nat.eq_or_lt_of_le hi with rfl | hlt
    · rw [dif_pos hstop, hstep i hi]
      exact ⟨_, rfl⟩
    · rw [dif_neg (Bool.eq_false_iff.1 (hwait i hlt)), hlimit.2 i hlt, if_neg Bool.false_ne_true,
        hstep i hi]
      exact ih hlt (by omega) _

/-- The checks from the `i`-th on, when none goes well. -/
theorem checks_gaveUp {most : Nat} (hlimit : policy.limit = .attempts most)
    (hstep : ∀ i < most, (ex r (st i)).state = st (i + 1))
    (hwait : ∀ i < most, stop (ex r (st i)).value = false)
    {b : Bounds} (hb : b.deadline = none) (start : Duration)
    {i fuel : Nat} (hi : i < most) (hfuel : most - i ≤ fuel) (now : Duration) :
    ∃ elapsed now', checks ex b policy r stop start fuel i ⟨st i, now⟩ =
      (some (.gaveUp ⟨most, elapsed⟩), ⟨st most, now'⟩) := by
  induction fuel generalizing i now with
  | zero => omega
  | succ fuel ih =>
    simp only [checks_of_deadline hb, hwait i hi, Bool.false_eq_true, dif_neg, not_false_eq_true,
      hlimit, Poll.Limit.spent, decide_eq_true_eq, hstep i hi]
    rcases Nat.eq_or_lt_of_le (Nat.succ_le_of_lt hi) with hlast | hlt
    · obtain rfl : most = i + 1 := hlast.symm
      rw [if_pos (Nat.le_refl _)]
      exact ⟨_, _, rfl⟩
    · rw [if_neg (by omega)]
      exact ih hlt (by omega) _

variable {next : (a : Answer r) → stop a = true → Plan Answer α}
  {gaveUp : Poll.Report → Plan Answer α} {s' : σ} {a : α}

/-- A wait ends with the first answer that it looks for. `st i` is the state before the `i`-th
check. -/
theorem Ends.wait_ready (hstep : ∀ i ≤ m, (ex r (st i)).state = st (i + 1))
    (hwait : ∀ i < m, stop (ex r (st i)).value = false) (hstop : stop (ex r (st m)).value = true)
    (hlimit : policy.limit.Allows m) (hnext : Ends ex (next _ hstop) (st (m + 1)) a s') :
    Ends ex (.wait policy r stop next gaveUp) (st 0) a s' := by
  obtain ⟨most, hnext⟩ := hnext
  refine ⟨max most (m + 1), fun b hb hmost now => ?_⟩
  obtain ⟨now', hchecks⟩ := checks_ready st hstep hwait hstop hlimit hb now (Nat.zero_le m)
    (show m - 0 < b.checks by omega) now
  rw [run, await, hlimit.1, if_neg (by decide), hchecks]
  exact hnext b hb (by omega) now'

/-- A poll ends with the first value that its check finds. -/
theorem Ends.pollUntil_ready {ε : Type} {check : Answer r → Except ε (Option β)} {found : β}
    (hstep : ∀ i ≤ m, (ex r (st i)).state = st (i + 1))
    (hwait : ∀ i < m, check (ex r (st i)).value = .ok none)
    (hcheck : check (ex r (st m)).value = .ok (some found)) (hlimit : policy.limit.Allows m) :
    Ends ex (pollUntil policy r check) (st 0) (.ok (.ready found)) (st (m + 1)) := by
  refine wait_ready st hstep (fun i hi => ?_) ?_ hlimit ?_
  · rw [hwait i hi, settles]
  · simp [hcheck, settles]
  · split
    · rename_i found' hfound
      cases hcheck.symm.trans hfound
      exact done _ _
    · rename_i e he
      cases hcheck.symm.trans he
    · rename_i hnone
      cases hcheck.symm.trans hnone

/-- A wait that finds nothing gives up after the attempts that its limit allows. -/
theorem Ends.wait_gaveUp {most : Nat} (hlimit : policy.limit = .attempts most)
    (hstep : ∀ i < most, (ex r (st i)).state = st (i + 1))
    (hwait : ∀ i < most, stop (ex r (st i)).value = false) {p : Plan Answer α}
    (hgaveUp : ∀ elapsed, gaveUp ⟨most, elapsed⟩ = p) (hp : Ends ex p (st most) a s') :
    Ends ex (.wait policy r stop next gaveUp) (st 0) a s' := by
  obtain ⟨enough, hp⟩ := hp
  refine ⟨max enough most, fun b hb hmost now => ?_⟩
  rw [run, await, hlimit, Poll.Limit.forbids]
  rcases Nat.eq_zero_or_pos most with rfl | hpos
  · rw [if_pos (by decide)]
    dsimp only
    rw [hgaveUp]
    exact hp b hb (by omega) now
  · obtain ⟨elapsed, now', hchecks⟩ := checks_gaveUp st hlimit hstep hwait hb now hpos
      (show most - 0 ≤ b.checks by omega) now
    rw [if_neg (by simpa using Nat.ne_of_gt hpos), hchecks]
    dsimp only
    rw [hgaveUp]
    exact hp b hb (by omega) now'

end Wait

/-! ## Watching -/

end Plan

/-- The executor with a log, the latest entry first, of what `view` makes of the requests and the
states in which they are put. -/
def Executor.watched {ρ : Type} {Answer : ρ → Type} {σ ω : Type} (ex : Executor Answer σ)
    (view : ρ → σ → Option ω) : Executor Answer (σ × List ω) := fun r s =>
  { value := (ex r s.1).value
    took := (ex r s.1).took
    state := ((ex r s.1).state, (view r s.1).toList ++ s.2) }

namespace Plan

variable {ρ : Type} {Answer : ρ → Type} {α σ ω : Type} {ex : Executor Answer σ}

/-- The state and the clock without the log. -/
def forget (w : Timed (σ × List ω)) : Timed σ := ⟨w.state.1, w.now⟩

theorem pass_forget (b : Bounds) (d : Duration) (w : Timed (σ × List ω)) :
    Timed.pass b d (forget w) = Prod.map id forget (Timed.pass b d w) := by
  obtain ⟨⟨s, log⟩, now⟩ := w
  change Timed.pass b d ⟨s, now⟩ = Prod.map id forget (Timed.pass b d ⟨(s, log), now⟩)
  unfold Timed.pass
  cases b.deadline with
  | none => rfl
  | some limit =>
    dsimp only
    split <;> rfl

variable (view : ρ → σ → Option ω)

theorem put_forget (b : Bounds) (r : ρ) (w : Timed (σ × List ω)) :
    put ex b r (forget w) = Prod.map id forget (put (ex.watched view) b r w) := by
  have h := pass_forget b (ex r w.state.1).took ⟨((ex.watched view) r w.state).state, w.now⟩
  unfold put
  dsimp only [forget, Executor.watched] at h ⊢
  rw [h]
  generalize Timed.pass b _ _ = passed
  obtain ⟨ok, w⟩ := passed
  cases ok <;> rfl

theorem checks_forget (b : Bounds) (policy : Poll.Policy) (r : ρ) (stop : Answer r → Bool)
    (start : Duration) (fuel made : Nat) (w : Timed (σ × List ω)) :
    checks ex b policy r stop start fuel made (forget w) =
      Prod.map id forget (checks (ex.watched view) b policy r stop start fuel made w) := by
  induction fuel generalizing made w with
  | zero => rfl
  | succ fuel ih =>
    rw [checks, checks, put_forget view]
    rcases put (ex.watched view) b r w with ⟨_ | a, w⟩
    · rfl
    · dsimp only [Prod.map, id]
      by_cases hstop : stop a = true
      · rw [dif_pos hstop, dif_pos hstop]
      · rw [dif_neg hstop, dif_neg hstop]
        by_cases hspent : policy.limit.spent (made + 1) (w.now - start) = true
        · rw [if_pos hspent]
          exact if_pos hspent
        · rw [if_neg hspent, pass_forget]
          refine (if_neg hspent).trans ?_
          rcases Timed.pass b (Timed.cut b policy.interval) w with ⟨_ | _, w⟩
          · rfl
          · exact ih (made + 1) w

/-- A plan goes with a watched executor as it goes without the log. -/
theorem run_forget (b : Bounds) (p : Plan Answer α) (w : Timed (σ × List ω)) :
    run ex b p (forget w) = Prod.map id forget (run (ex.watched view) b p w) := by
  induction p generalizing w with
  | done a => rfl
  | ask r next ih =>
    rw [run, run, put_forget view]
    rcases put (ex.watched view) b r w with ⟨_ | a, w⟩
    · rfl
    · exact ih a w
  | wait policy r stop next gaveUp ih ih' =>
    have hawait : await ex b policy r stop (forget w) =
        Prod.map id forget (await (ex.watched view) b policy r stop w) := by
      unfold await
      split
      · rfl
      · exact checks_forget view b policy r stop w.now b.checks 0 w
    rw [run, run, hawait]
    rcases await (ex.watched view) b policy r stop w with ⟨_ | ⟨a, h⟩ | rep, w⟩
    · rfl
    · exact ih a h w
    · exact ih' rep w

theorem Ends.of_watched {p : Plan Answer α} {s s' : σ} {log log' : List ω} {a : α}
    (h : Ends (ex.watched view) p (s, log) a (s', log')) : Ends ex p s a s' := by
  obtain ⟨most, h⟩ := h
  refine ⟨most, fun b hb hmost now => ?_⟩
  obtain ⟨now', hrun⟩ := h b hb hmost now
  have hforget : run ex b p ⟨s, now⟩ =
      Prod.map id forget (run (ex.watched view) b p ⟨(s, log), now⟩) :=
    run_forget view b p ⟨(s, log), now⟩
  rw [hrun] at hforget
  exact ⟨now', hforget⟩

end Plan

end PaneRunner
