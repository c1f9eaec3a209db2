import PaneRunner.Proofs.Plan.Ends

/-
  Traces: what a run asks its executor and what it is answered, in the order of time, also if the
  run is broken off. `Traces` says from the plan alone which traces there can be, for every executor
  and every clock, and which of them end in which value; `traces_run` is that every run has such a
  trace, so a fact about all traces of a plan holds of all its runs. `Traces.of_bind`: a trace of two
  plans in a row is a trace of the first, then one of the second. `Within` bounds the requests of a
  plan (`Traces.within`), and what a plan does not ask for does not change its runs (`run_congr`).
-/
namespace PaneRunner

/-- A request with the answer that it was given. -/
abbrev Exchange {ρ : Type} (Answer : ρ → Type) : Type := (r : ρ) × Answer r

/-- What was asked for, in order. -/
abbrev requests {ρ : Type} {Answer : ρ → Type} (t : List (Exchange Answer)) : List ρ :=
  t.map Sigma.fst

/-- The executor with a record of its exchanges, the latest first. -/
def Executor.recorded {ρ σ : Type} {Answer : ρ → Type} (ex : Executor Answer σ) :
    Executor Answer (σ × List (Exchange Answer)) :=
  ex.watched fun r s => some ⟨r, (ex r s).value⟩

/-- Whatever satisfies `Q` in the list has something before it that satisfies `P`. -/
def Precedes {α : Type} (P Q : α → Prop) (l : List α) : Prop :=
  ∀ before x after, l = before ++ x :: after → Q x → ∃ y ∈ before, P y

theorem Precedes.of_none {α : Type} {P Q : α → Prop} {l : List α} (h : ∀ x ∈ l, ¬ Q x) :
    Precedes P Q l := by
  intro before x after hl hx
  exact absurd hx (h x (by rw [hl]; exact List.mem_append_right _ (List.mem_cons_self)))

theorem Precedes.of_head {α : Type} {P Q : α → Prop} {y : α} (hy : P y) (hnot : ¬ Q y)
    (l : List α) : Precedes P Q (y :: l) := by
  intro before x after hl hx
  cases before with
  | nil => exact absurd ((List.cons.inj hl).1 ▸ hx) hnot
  | cons z before =>
    obtain ⟨rfl, -⟩ := List.cons.inj hl
    exact ⟨y, List.mem_cons_self, hy⟩

theorem Precedes.cons {α : Type} {P Q : α → Prop} {y : α} (hnot : ¬ Q y) {l : List α}
    (h : Precedes P Q l) : Precedes P Q (y :: l) := by
  intro before x after hl hx
  cases before with
  | nil => exact absurd ((List.cons.inj hl).1 ▸ hx) hnot
  | cons z before =>
    obtain ⟨z', hz', hP⟩ := h before x after (List.cons.inj hl).2 hx
    exact ⟨z', List.mem_cons_of_mem _ hz', hP⟩

theorem Precedes.append_left {α : Type} {P Q : α → Prop} {l₁ l₂ : List α}
    (h₁ : ∀ x ∈ l₁, ¬ Q x) (h₂ : Precedes P Q l₂) : Precedes P Q (l₁ ++ l₂) := by
  induction l₁ with
  | nil => exact h₂
  | cons y l₁ ih =>
    obtain ⟨hy, h₁⟩ := List.forall_mem_cons.1 h₁
    exact (ih h₁).cons hy

/-- A poll under the limit may give up with this report: no check was allowed, or the last check
made was the first that no other may follow. -/
def Poll.Limit.Exhausts (limit : Limit) (rep : Report) : Prop :=
  (limit.forbids = true ∧ rep.attempts = 0) ∨
    (limit.forbids = false ∧ 0 < rep.attempts ∧ limit.spent rep.attempts rep.elapsed = true ∧
      ∀ i, 0 < i → i < rep.attempts → ∃ elapsed, limit.spent i elapsed = false)

theorem Poll.Limit.Exhausts.attempts_eq {most : Nat} {rep : Report}
    (h : (Limit.attempts most).Exhausts rep) : rep.attempts = most := by
  simp only [Exhausts, forbids, spent, beq_iff_eq, beq_eq_false_iff_ne, decide_eq_true_eq,
    decide_eq_false_iff_not] at h
  rcases h with ⟨hmost, hnone⟩ | ⟨hmost, hpos, hspent, hbefore⟩
  · rw [hmost, hnone]
  · rcases Nat.eq_or_lt_of_le hspent with heq | hlt
    · exact heq.symm
    · obtain ⟨-, hnot⟩ := hbefore most (Nat.pos_of_ne_zero hmost) hlt
      exact absurd (Nat.le_refl most) hnot

theorem Poll.Limit.Exhausts.le_elapsed {limit : Duration} {rep : Report}
    (h : (Limit.timeout limit).Exhausts rep) : limit ≤ rep.elapsed := by
  rcases h with ⟨hforbids, -⟩ | ⟨-, -, hspent, -⟩
  · cases hforbids
  · simpa [spent] using hspent

theorem Poll.Limit.not_exhausts_unbounded (rep : Report) : ¬ Limit.unbounded.Exhausts rep := by
  rintro (⟨hforbids, -⟩ | ⟨-, -, hspent, -⟩)
  · cases hforbids
  · cases hspent

namespace Plan

variable {ρ : Type} {Answer : ρ → Type} {α β σ : Type}

/-- What a run from `w` on exchanges. -/
def trace (ex : Executor Answer σ) (b : Bounds) (p : Plan Answer α) (w : Timed σ) :
    List (Exchange Answer) :=
  (run ex.recorded b p ⟨(w.state, []), w.now⟩).2.state.2.reverse

/-- The plan may exchange `t` and come to a value, or to none if it is broken off. -/
inductive Traces : Plan Answer α → List (Exchange Answer) → Option α → Prop where
  | done (a : α) : Traces (.done a) [] (some a)
  | ask {r : ρ} {next : Answer r → Plan Answer α} (a : Answer r) {t : List (Exchange Answer)}
      {v : Option α} (h : Traces (next a) t v) : Traces (.ask r next) (⟨r, a⟩ :: t) v
  | askCut {r : ρ} {next : Answer r → Plan Answer α} (a : Answer r) :
      Traces (.ask r next) [⟨r, a⟩] none
  | ready {policy : Poll.Policy} {r : ρ} {stop : Answer r → Bool}
      {next : (a : Answer r) → stop a = true → Plan Answer α} {gaveUp : Poll.Report → Plan Answer α}
      {misses : List (Answer r)} (hmisses : ∀ a ∈ misses, stop a = false) {a : Answer r}
      (ha : stop a = true) {t : List (Exchange Answer)} {v : Option α} (h : Traces (next a ha) t v) :
      Traces (.wait policy r stop next gaveUp) (misses.map (Sigma.mk r) ++ ⟨r, a⟩ :: t) v
  | gaveUp {policy : Poll.Policy} {r : ρ} {stop : Answer r → Bool}
      {next : (a : Answer r) → stop a = true → Plan Answer α} {gaveUp : Poll.Report → Plan Answer α}
      {misses : List (Answer r)} (hmisses : ∀ a ∈ misses, stop a = false) {rep : Poll.Report}
      (hrep : policy.limit.Exhausts rep) (hlength : misses.length = rep.attempts)
      {t : List (Exchange Answer)} {v : Option α} (h : Traces (gaveUp rep) t v) :
      Traces (.wait policy r stop next gaveUp) (misses.map (Sigma.mk r) ++ t) v
  | waitCut {policy : Poll.Policy} {r : ρ} {stop : Answer r → Bool}
      {next : (a : Answer r) → stop a = true → Plan Answer α} {gaveUp : Poll.Report → Plan Answer α}
      (answers : List (Answer r)) :
      Traces (.wait policy r stop next gaveUp) (answers.map (Sigma.mk r)) none

/-! ## Runs have traces -/

variable {ex : Executor Answer σ} {b : Bounds}

/-- The answers to the checks of a wait, of which `made` were made before, and how it ends. -/
inductive Looks (limit : Poll.Limit) (r : ρ) (stop : Answer r → Bool) (made : Nat) :
    List (Answer r) → Option (WaitEnd Answer r stop) → Prop where
  | cut (answers : List (Answer r)) : Looks limit r stop made answers none
  | ready {misses : List (Answer r)} (hmisses : ∀ a ∈ misses, stop a = false) {a : Answer r}
      (ha : stop a = true) : Looks limit r stop made (misses ++ [a]) (some (.ready a ha))
  | gaveUp {misses : List (Answer r)} (hmisses : ∀ a ∈ misses, stop a = false)
      {rep : Poll.Report} (hne : misses ≠ []) (hlength : made + misses.length = rep.attempts)
      (hspent : limit.spent rep.attempts rep.elapsed = true)
      (hbefore : ∀ i, made < i → i < rep.attempts → ∃ elapsed, limit.spent i elapsed = false) :
      Looks limit r stop made misses (some (.gaveUp rep))

theorem Looks.cons {limit : Poll.Limit} {r : ρ} {stop : Answer r → Bool} {made : Nat} {a : Answer r}
    (ha : stop a = false) {elapsed : Duration} (hspent : limit.spent (made + 1) elapsed = false)
    {answers : List (Answer r)} {v : Option (WaitEnd Answer r stop)}
    (h : Looks limit r stop (made + 1) answers v) : Looks limit r stop made (a :: answers) v := by
  cases h with
  | cut => exact .cut _
  | ready hmisses ha' =>
    rw [← List.cons_append]
    exact .ready (List.forall_mem_cons.2 ⟨ha, hmisses⟩) ha'
  | gaveUp hmisses hne hlength hspent' hbefore =>
    refine .gaveUp (List.forall_mem_cons.2 ⟨ha, hmisses⟩) (List.cons_ne_nil _ _)
      (by rw [List.length_cons]; omega) hspent' fun i hi hlt => ?_
    rcases Nat.eq_or_lt_of_le (Nat.succ_le_of_lt hi) with rfl | hi
    · exact ⟨elapsed, hspent⟩
    · exact hbefore i hi hlt

/-- Time passes without regard to the state. -/
theorem exists_pass (b : Bounds) (d now : Duration) :
    ∃ ok now', ∀ {τ : Type} (s : τ), Timed.pass b d ⟨s, now⟩ = (ok, ⟨s, now'⟩) := by
  unfold Timed.pass
  cases b.deadline with
  | none => exact ⟨true, now + d, fun s => rfl⟩
  | some limit =>
    dsimp only
    by_cases hlate : limit < now + d
    · exact ⟨false, limit, fun s => if_pos hlate⟩
    · exact ⟨true, now + d, fun s => if_neg hlate⟩

variable (ex : Executor Answer σ) (b : Bounds)

/-- The recorded executor answers as the executor does, and notes the exchange. -/
theorem exists_put (r : ρ) (s : σ) (now : Duration) :
    ∃ v now', (v = none ∨ v = some (ex r s).value) ∧
      put ex b r ⟨s, now⟩ = (v, ⟨(ex r s).state, now'⟩) ∧
      ∀ log, put ex.recorded b r ⟨(s, log), now⟩ =
        (v, ⟨((ex r s).state, ⟨r, (ex r s).value⟩ :: log), now'⟩) := by
  obtain ⟨ok, now', hpass⟩ := exists_pass b (ex r s).took now
  cases ok with
  | true =>
    refine ⟨some (ex r s).value, now', Or.inr rfl, ?_, fun log => ?_⟩
    · simp only [put, hpass]
    · simp only [put, Executor.recorded, Executor.watched, hpass]
      rfl
  | false =>
    refine ⟨none, now', Or.inl rfl, ?_, fun log => ?_⟩
    · simp only [put, hpass]
    · simp only [put, Executor.recorded, Executor.watched, hpass]
      rfl

/-- The checks of a wait: the recorded executor leads them as the executor does, and notes the
answers. -/
theorem exists_looks (policy : Poll.Policy) (r : ρ) (stop : Answer r → Bool) (start : Duration)
    (fuel made : Nat) (s : σ) (now : Duration) :
    ∃ answers v s' now', Looks policy.limit r stop made answers v ∧
      checks ex b policy r stop start fuel made ⟨s, now⟩ = (v, ⟨s', now'⟩) ∧
      ∀ log, checks ex.recorded b policy r stop start fuel made ⟨(s, log), now⟩ =
        (v, ⟨(s', (answers.map (Sigma.mk r)).reverse ++ log), now'⟩) := by
  induction fuel generalizing made s now with
  | zero => exact ⟨[], none, s, now, .cut [], rfl, fun log => rfl⟩
  | succ fuel ih =>
    obtain ⟨v, now₁, hv, hput, hrecorded⟩ := exists_put ex b r s now
    simp only [checks, hput, hrecorded]
    rcases hv with rfl | rfl
    · exact ⟨[(ex r s).value], none, _, now₁, .cut _, rfl, fun log => rfl⟩
    dsimp only
    by_cases hstop : stop (ex r s).value = true
    · have hnone : ∀ a ∈ ([] : List (Answer r)), stop a = false := fun a ha => by cases ha
      exact ⟨[(ex r s).value], some (.ready _ hstop), _, now₁, .ready hnone hstop, dif_pos hstop,
        fun log => dif_pos hstop⟩
    simp only [dif_neg hstop]
    have hmiss : stop (ex r s).value = false := Bool.not_eq_true _ ▸ hstop
    by_cases hspent : policy.limit.spent (made + 1) (now₁ - start) = true
    · refine ⟨[(ex r s).value], some (.gaveUp ⟨made + 1, now₁ - start⟩), _, now₁, ?_,
        if_pos hspent, fun log => if_pos hspent⟩
      refine .gaveUp (fun a ha => ?_) (List.cons_ne_nil _ _) rfl hspent fun i hi hlt => ?_
      · rw [List.mem_singleton.1 ha]
        exact hmiss
      · exact absurd hlt (Nat.not_lt.2 hi)
    simp only [if_neg hspent]
    obtain ⟨ok, now₂, hpass⟩ := exists_pass b (Timed.cut b policy.interval) now₁
    simp only [hpass]
    cases ok with
    | false => exact ⟨[(ex r s).value], none, _, now₂, .cut _, rfl, fun log => rfl⟩
    | true =>
      obtain ⟨answers, v, s', now', hlooks, hchecks, hnoted⟩ :=
        ih (made + 1) (ex r s).state now₂
      refine ⟨(ex r s).value :: answers, v, s', now',
        hlooks.cons hmiss (Bool.not_eq_true _ ▸ hspent), hchecks, fun log => ?_⟩
      rw [List.map_cons, List.reverse_cons, List.append_assoc]
      exact hnoted _

/-- Every run has a trace, and the recorded executor notes it. -/
theorem exists_trace (p : Plan Answer α) (s : σ) (now : Duration) :
    ∃ t v s' now', Traces p t v ∧ run ex b p ⟨s, now⟩ = (v, ⟨s', now'⟩) ∧
      ∀ log, run ex.recorded b p ⟨(s, log), now⟩ = (v, ⟨(s', t.reverse ++ log), now'⟩) := by
  induction p generalizing s now with
  | done a => exact ⟨[], some a, s, now, .done a, rfl, fun log => rfl⟩
  | ask r next ih =>
    obtain ⟨v, now₁, hv, hput, hrecorded⟩ := exists_put ex b r s now
    simp only [run, hput, hrecorded]
    rcases hv with rfl | rfl
    · exact ⟨[⟨r, (ex r s).value⟩], none, _, now₁, .askCut _, rfl, fun log => rfl⟩
    obtain ⟨t, v, s', now', ht, hrun, hnoted⟩ := ih (ex r s).value (ex r s).state now₁
    refine ⟨⟨r, (ex r s).value⟩ :: t, v, s', now', .ask _ ht, hrun, fun log => ?_⟩
    rw [List.reverse_cons, List.append_assoc]
    exact hnoted _
  | wait policy r stop next gaveUp ih ih' =>
    simp only [run, await]
    by_cases hforbids : policy.limit.forbids = true
    · obtain ⟨t, v, s', now', ht, hrun, hnoted⟩ := ih' ⟨0, .zero⟩ s now
      have hnone : ∀ a ∈ ([] : List (Answer r)), stop a = false := fun a ha => by cases ha
      simp only [if_pos hforbids]
      exact ⟨t, v, s', now', .gaveUp hnone (Or.inl ⟨hforbids, rfl⟩) rfl ht, hrun, hnoted⟩
    simp only [if_neg hforbids]
    obtain ⟨answers, v, s₁, now₁, hlooks, hchecks, hrecorded⟩ :=
      exists_looks ex b policy r stop now b.checks 0 s now
    simp only [hchecks, hrecorded]
    cases hlooks with
    | cut => exact ⟨_, none, s₁, now₁, .waitCut answers, rfl, fun log => rfl⟩
    | @ready misses hmisses a ha =>
      obtain ⟨t, v, s', now', ht, hrun, hnoted⟩ := ih a ha s₁ now₁
      refine ⟨_, v, s', now', .ready hmisses ha ht, hrun, fun log => ?_⟩
      simpa using hnoted ((⟨r, a⟩ :: (misses.map (Sigma.mk r)).reverse) ++ log)
    | @gaveUp _ hmisses rep hne hlength hspent hbefore =>
      obtain ⟨t, v, s', now', ht, hrun, hnoted⟩ := ih' rep s₁ now₁
      have hpos : 0 < answers.length := List.length_pos_iff.2 hne
      refine ⟨_, v, s', now', .gaveUp hmisses (Or.inr ⟨Bool.not_eq_true _ ▸ hforbids, by omega,
        hspent, hbefore⟩) (by omega) ht, hrun, fun log => ?_⟩
      rw [List.reverse_append, List.append_assoc]
      exact hnoted _

/-- What the recorded executor comes to. -/
theorem run_recorded (p : Plan Answer α) (s : σ) (log : List (Exchange Answer)) (now : Duration) :
    run ex.recorded b p ⟨(s, log), now⟩ =
      ((run ex b p ⟨s, now⟩).1, ⟨((run ex b p ⟨s, now⟩).2.state,
        (trace ex b p ⟨s, now⟩).reverse ++ log), (run ex b p ⟨s, now⟩).2.now⟩) := by
  obtain ⟨t, v, s', now', -, hrun, hnoted⟩ := exists_trace ex b p s now
  rw [hnoted, hrun, trace, hnoted, List.append_nil, List.reverse_reverse]

theorem traces_run (p : Plan Answer α) (w : Timed σ) :
    Traces p (trace ex b p w) (run ex b p w).1 := by
  obtain ⟨t, v, s', now', ht, hrun, hnoted⟩ := exists_trace ex b p w.state w.now
  have htrace : trace ex b p w = t := by
    rw [trace, hnoted, List.append_nil, List.reverse_reverse]
  rw [htrace, show run ex b p w = _ from hrun]
  exact ht

/-- What two plans in a row exchange. -/
theorem trace_bind (p : Plan Answer α) (f : α → Plan Answer β) (w : Timed σ) :
    trace ex b (p.bind f) w = match run ex b p w with
      | (some a, w') => trace ex b p w ++ trace ex b (f a) w'
      | (none, _) => trace ex b p w := by
  rw [trace, run_bind, run_recorded]
  rcases hrun : run ex b p w with ⟨_ | a, w'⟩
  · simp
  · simp [run_recorded]

/-- A plan whose value is turned into another. -/
theorem run_map (p : Plan Answer α) (f : α → β) (w : Timed σ) :
    run ex b (p.bind fun a => .done (f a)) w = ((run ex b p w).1.map f, (run ex b p w).2) := by
  rw [run_bind]
  rcases run ex b p w with ⟨_ | a, w'⟩ <;> rfl

theorem trace_map (p : Plan Answer α) (f : α → β) (w : Timed σ) :
    trace ex b (p.bind fun a => .done (f a)) w = trace ex b p w := by
  rw [trace_bind]
  rcases run ex b p w with ⟨_ | a, w'⟩
  · rfl
  · exact List.append_nil _

/-! ## Waits that end -/

theorem checks_ne_none (hb : b.deadline = none) {policy : Poll.Policy} {most : Nat}
    (hlimit : policy.limit = .attempts most) (r : ρ) (stop : Answer r → Bool) (start : Duration)
    {fuel made : Nat} (hmade : made < most) (hfuel : most - made ≤ fuel) (c : Timed σ) :
    (checks ex b policy r stop start fuel made c).1 ≠ none := by
  induction fuel generalizing made c with
  | zero => omega
  | succ fuel ih =>
    obtain ⟨s, now⟩ := c
    simp only [checks_of_deadline hb, hlimit, Poll.Limit.spent, decide_eq_true_eq]
    split
    · exact Option.some_ne_none _
    split
    · exact Option.some_ne_none _
    · exact ih (by omega) (by omega) _

/-- A wait of so many checks at most ends if no deadline breaks it off. -/
theorem await_ne_none (hb : b.deadline = none) {policy : Poll.Policy} {most : Nat}
    (hlimit : policy.limit = .attempts most) (hmost : most ≤ b.checks) (r : ρ)
    (stop : Answer r → Bool) (c : Timed σ) : (await ex b policy r stop c).1 ≠ none := by
  rw [await, hlimit, Poll.Limit.forbids]
  split
  · exact Option.some_ne_none _
  · rename_i hzero
    have hpos : 0 < most := Nat.pos_of_ne_zero (by simpa using hzero)
    exact checks_ne_none ex b hb hlimit r stop _ hpos (by omega) c

/-! ## Plans in a row -/

variable {ex b}

theorem Traces.of_bind {p : Plan Answer α} {f : α → Plan Answer β} {t : List (Exchange Answer)}
    {v : Option β} (h : Traces (p.bind f) t v) :
    (v = none ∧ Traces p t none) ∨
      ∃ t₁ t₂ a, t = t₁ ++ t₂ ∧ Traces p t₁ (some a) ∧ Traces (f a) t₂ v := by
  induction p generalizing t with
  | done a => exact Or.inr ⟨[], t, a, rfl, .done a, h⟩
  | ask r next ih =>
    cases h with
    | ask a h =>
      rcases ih a h with ⟨hv, h⟩ | ⟨t₁, t₂, a', rfl, h₁, h₂⟩
      · exact Or.inl ⟨hv, .ask a h⟩
      · exact Or.inr ⟨⟨r, a⟩ :: t₁, t₂, a', rfl, .ask a h₁, h₂⟩
    | askCut a => exact Or.inl ⟨rfl, .askCut a⟩
  | wait policy r stop next gaveUp ih ih' =>
    cases h with
    | ready hmisses ha h =>
      rcases ih _ ha h with ⟨hv, h⟩ | ⟨t₁, t₂, a', rfl, h₁, h₂⟩
      · exact Or.inl ⟨hv, .ready hmisses ha h⟩
      · exact Or.inr ⟨_, t₂, a', by rw [← List.cons_append, ← List.append_assoc],
          .ready hmisses ha h₁, h₂⟩
    | gaveUp hmisses hrep hlength h =>
      rcases ih' _ h with ⟨hv, h⟩ | ⟨t₁, t₂, a', rfl, h₁, h₂⟩
      · exact Or.inl ⟨hv, .gaveUp hmisses hrep hlength h⟩
      · exact Or.inr ⟨_, t₂, a', (List.append_assoc _ _ _).symm, .gaveUp hmisses hrep hlength h₁,
          h₂⟩
    | waitCut answers => exact Or.inl ⟨rfl, .waitCut answers⟩

/-! ## Bounded requests -/

/-- Every request that the plan may make satisfies `P`. -/
inductive Within (P : ρ → Prop) : Plan Answer α → Prop where
  | done (a : α) : Within P (.done a)
  | ask {r : ρ} {next : Answer r → Plan Answer α} (hr : P r) (h : ∀ a, Within P (next a)) :
      Within P (.ask r next)
  | wait {policy : Poll.Policy} {r : ρ} {stop : Answer r → Bool}
      {next : (a : Answer r) → stop a = true → Plan Answer α} {gaveUp : Poll.Report → Plan Answer α}
      (hr : P r) (h : ∀ a ha, Within P (next a ha)) (h' : ∀ rep, Within P (gaveUp rep)) :
      Within P (.wait policy r stop next gaveUp)

variable {P Q : ρ → Prop}

theorem Within.bind {p : Plan Answer α} {f : α → Plan Answer β} (h : Within P p)
    (hf : ∀ a, Within P (f a)) : Within P (p.bind f) := by
  induction h with
  | done a => exact hf a
  | ask hr _ ih => exact .ask hr ih
  | wait hr _ _ ih ih' => exact .wait hr ih ih'

theorem Within.mono {p : Plan Answer α} (h : Within P p) (hPQ : ∀ r, P r → Q r) : Within Q p := by
  induction h with
  | done a => exact .done a
  | ask hr _ ih => exact .ask (hPQ _ hr) ih
  | wait hr _ _ ih ih' => exact .wait (hPQ _ hr) ih ih'

theorem Traces.within {p : Plan Answer α} {t : List (Exchange Answer)} {v : Option α}
    (h : Traces p t v) (hp : Within P p) : ∀ x ∈ t, P x.1 := by
  have hwait : ∀ {r : ρ}, P r → ∀ answers : List (Answer r),
      ∀ x ∈ answers.map (Sigma.mk r), P x.1 := by
    intro r hr answers x hx
    obtain ⟨a, -, rfl⟩ := List.mem_map.1 hx
    exact hr
  induction h with
  | done a => exact fun x hx => by cases hx
  | ask a _ ih =>
    cases hp with
    | ask hr hnext => exact List.forall_mem_cons.2 ⟨hr, ih (hnext a)⟩
  | askCut a =>
    cases hp with
    | ask hr hnext => exact List.forall_mem_cons.2 ⟨hr, fun x hx => by cases hx⟩
  | ready _ ha _ ih =>
    cases hp with
    | wait hr hnext _ =>
      exact List.forall_mem_append.2
        ⟨hwait hr _, List.forall_mem_cons.2 ⟨hr, ih (hnext _ ha)⟩⟩
  | gaveUp _ _ _ _ ih =>
    cases hp with
    | wait hr _ hgaveUp => exact List.forall_mem_append.2 ⟨hwait hr _, ih (hgaveUp _)⟩
  | waitCut answers =>
    cases hp with
    | wait hr _ _ => exact hwait hr answers

/-- A plan goes the same way with every executor that gives the same replies to its requests. -/
theorem run_congr {ex' : Executor Answer σ} {p : Plan Answer α} (hp : Within P p)
    (hex : ∀ r, P r → ∀ s, ex' r s = ex r s) (w : Timed σ) : run ex' b p w = run ex b p w := by
  have hput : ∀ r, P r → ∀ w, put ex' b r w = put ex b r w := by
    intro r hr w
    simp only [put, hex r hr]
  have hchecks : ∀ policy r, P r → ∀ stop start fuel made w,
      checks ex' b policy r stop start fuel made w =
        checks ex b policy r stop start fuel made w := by
    intro policy r hr stop start fuel
    induction fuel with
    | zero => exact fun made w => rfl
    | succ fuel ih =>
      intro made w
      simp only [checks, hput r hr, ih]
  induction hp generalizing w with
  | done a => rfl
  | ask hr _ ih =>
    rw [run, run, hput _ hr]
    rcases put ex b _ w with ⟨_ | a, w'⟩
    · rfl
    · exact ih a w'
  | @wait policy r stop next gaveUp hr _ _ ih ih' =>
    have hawait : await ex' b policy r stop w = await ex b policy r stop w := by
      simp only [await, hchecks policy r hr]
    rw [run, run, hawait]
    rcases await ex b policy r stop w with ⟨_ | ⟨a, ha⟩ | rep, w'⟩
    · rfl
    · exact ih a ha w'
    · exact ih' rep w'

end Plan

end PaneRunner
