import Mathlib.Algebra.Order.Floor.Div
import PaneRunner.Proofs.Trace.Calls

/-
  Polls on their clock, check by check. A `Series` says of the checks of a poll what each finds and
  how long it takes, and from that when each of them starts: the checks before it and as many pauses
  later. A poll makes the checks up to the first that is final, comes to the verdict on that one at
  the moment when it ends (`run_pollUntil_last`), and goes on for ever if none is
  (`run_pollUntil_open`). What a limit on the time comes to is a matter of the series alone:
  `Series.Last.timeout`, `Series.exists_last`, `Series.last_of_instant`.
-/
namespace PaneRunner

namespace Duration

theorem add_assoc (a b c : Duration) : a + b + c = a + (b + c) :=
  congrArg mk (Nat.add_assoc a.nanos b.nanos c.nanos)

theorem add_zero (a : Duration) : a + .zero = a := rfl

theorem add_sub_self (a b : Duration) : a + b - a = b :=
  congrArg mk (Nat.add_sub_cancel_left a.nanos b.nanos)

end Duration

namespace Poll

/-- The checks of a poll: what each of them finds, and how long it takes. -/
@[ext]
structure Series (ε β : Type) where
  found : Nat → Except ε (Option β)
  took : Nat → Duration

namespace Series

variable {ε β : Type} (c : Series ε β) (pause : Duration) (limit : Limit)

/-- When the `i`-th check starts. -/
def start : Nat → Duration
  | 0 => .zero
  | i + 1 => start i + c.took i + pause

/-- When the `i`-th check has ended. -/
def ended (i : Nat) : Duration := c.start pause i + c.took i

/-- No check follows the `i`-th: it finds a value or fails, or the limit is reached with it. -/
def Final (i : Nat) : Prop :=
  c.found i ≠ .ok none ∨ (∃ most, limit = .attempts most ∧ most ≤ i + 1) ∨
    ∃ time, limit = .timeout time ∧ time ≤ c.ended pause i

/-- The `i`-th check is the last. -/
def Last (i : Nat) : Prop := c.Final pause limit i ∧ ∀ j < i, ¬ c.Final pause limit j

/-- What the poll comes to if the `i`-th check is the last: what that found, however late it is, or a
report if it found nothing. -/
def verdict (i : Nat) : Except ε (Outcome β) :=
  match c.found i with
  | .ok (some found) => .ok (.ready found)
  | .ok none => .ok (.exhausted ⟨i + 1, c.ended pause i⟩)
  | .error e => .error e

variable {c pause limit}

/-- The first checks of which none is final, and the last check among them if one is. -/
theorem last_or_open (c : Series ε β) (pause : Duration) (limit : Limit) (n : Nat) :
    (∃ i < n, c.Last pause limit i) ∨ ∀ j < n, ¬ c.Final pause limit j := by
  induction n with
  | zero => exact Or.inr fun j hj => absurd hj (Nat.not_lt_zero j)
  | succ n ih =>
    rcases ih with ⟨i, hi, hlast⟩ | hopen
    · exact Or.inl ⟨i, by omega, hlast⟩
    · by_cases hn : c.Final pause limit n
      · exact Or.inl ⟨n, Nat.lt_succ_self n, hn, hopen⟩
      · refine Or.inr fun j hj => ?_
        rcases Nat.lt_succ_iff_lt_or_eq.1 hj with hj | rfl
        · exact hopen j hj
        · exact hn

/-! ## A limit on the time -/

variable {time : Duration}

theorem final_timeout_iff {i : Nat} (hnone : c.found i = .ok none) :
    c.Final pause (.timeout time) i ↔ time ≤ c.ended pause i := by
  constructor
  · rintro (hsome | ⟨most, hlimit, -⟩ | ⟨time', hlimit, hended⟩)
    · exact absurd hnone hsome
    · cases hlimit
    · cases hlimit
      exact hended
  · exact fun hended => Or.inr (Or.inr ⟨time, rfl, hended⟩)

theorem mul_le_start (c : Series ε β) (pause : Duration) (i : Nat) :
    pause.nanos * i ≤ (c.start pause i).nanos := by
  induction i with
  | zero => exact Nat.zero_le _
  | succ i ih =>
    rw [start, Duration.nanos_add, Duration.nanos_add, Nat.mul_succ]
    omega

/-- When the pauses fill the time, the check after them is final. -/
theorem final_of_le_mul {i : Nat} (h : time.nanos ≤ pause.nanos * i) :
    c.Final pause (.timeout time) i := by
  refine Or.inr (Or.inr ⟨time, rfl, ?_⟩)
  have hstart := mul_le_start c pause i
  rw [ended, Duration.le_def, Duration.nanos_add]
  omega

/-- With a pause at all, there is a last check, and it is not far. -/
theorem exists_last (c : Series ε β) (time : Duration) (hpause : 0 < pause.nanos) :
    ∃ i ≤ time.nanos ⌈/⌉ pause.nanos, c.Last pause (.timeout time) i := by
  have hfinal : c.Final pause (.timeout time) (time.nanos ⌈/⌉ pause.nanos) :=
    final_of_le_mul ((ceilDiv_le_iff_le_mul hpause).1 (Nat.le_refl _))
  rcases last_or_open c pause (.timeout time) (time.nanos ⌈/⌉ pause.nanos + 1) with ⟨i, hi, hlast⟩ | hopen
  · exact ⟨i, Nat.le_of_lt_succ hi, hlast⟩
  · exact absurd hfinal (hopen _ (Nat.lt_succ_self _))

/-- A last check that finds nothing ends when the time is up, and it started before the time was up
by a pause. -/
theorem Last.timeout {i : Nat} (h : c.Last pause (.timeout time) i) (hnone : c.found i = .ok none) :
    time ≤ c.ended pause i ∧ (i = 0 ∨ c.start pause i < time + pause) := by
  refine ⟨(final_timeout_iff hnone).1 h.1, ?_⟩
  cases i with
  | zero => exact Or.inl rfl
  | succ i =>
    refine Or.inr ?_
    have hbefore := h.2 i (Nat.lt_succ_self i)
    have hearly : ¬ time ≤ c.ended pause i :=
      fun hended => hbefore (Or.inr (Or.inr ⟨time, rfl, hended⟩))
    rw [Duration.le_def] at hearly
    rw [start, Duration.lt_def, Duration.nanos_add, Duration.nanos_add]
    rw [ended] at hearly
    exact Nat.add_lt_add_right (Nat.lt_of_not_le hearly) pause.nanos

/-- Checks that take no time start a pause apart. -/
theorem start_of_instant {i : Nat} (h : ∀ j < i, c.took j = .zero) :
    c.start pause i = ⟨pause.nanos * i⟩ := by
  induction i with
  | zero => rfl
  | succ i ih =>
    rw [start, ih fun j hj => h j (Nat.lt_succ_of_lt hj), h i (Nat.lt_succ_self i),
      Duration.add_zero]
    rfl

theorem ended_of_instant {i : Nat} (h : ∀ j ≤ i, c.took j = .zero) :
    c.ended pause i = ⟨pause.nanos * i⟩ := by
  rw [ended, start_of_instant fun j hj => h j (Nat.le_of_lt hj), h i (Nat.le_refl i),
    Duration.add_zero]

/-- If no check takes time or finds anything, the last one is that after the pauses that fill the
time. -/
theorem last_of_instant (hpause : 0 < pause.nanos)
    (h : ∀ i ≤ time.nanos ⌈/⌉ pause.nanos, c.took i = .zero ∧ c.found i = .ok none) :
    c.Last pause (.timeout time) (time.nanos ⌈/⌉ pause.nanos) := by
  refine ⟨final_of_le_mul ((ceilDiv_le_iff_le_mul hpause).1 (Nat.le_refl _)), fun j hj => ?_⟩
  rw [final_timeout_iff (h j (Nat.le_of_lt hj)).2,
    ended_of_instant fun i hi => (h i (hi.trans (Nat.le_of_lt hj))).1]
  exact fun hfilled => absurd ((ceilDiv_le_iff_le_mul hpause).2 hfilled) (Nat.not_le.2 hj)

end Series

end Poll

namespace Plan

open Poll

variable {ρ : Type} {Answer : ρ → Type} {α β σ ε : Type}

/-! ## The checks of an executor -/

/-- The executor's state before it is asked the same for the `i`-th time. -/
def asked (ex : Executor Answer σ) (r : ρ) (s : σ) : Nat → σ
  | 0 => s
  | i + 1 => (ex r (asked ex r s i)).state

/-- The checks that an executor gives when it is asked the same again and again. -/
def series (ex : Executor Answer σ) (r : ρ) (check : Answer r → Except ε (Option β)) (s : σ) :
    Series ε β where
  found i := check (ex r (asked ex r s i)).value
  took i := (ex r (asked ex r s i)).took

/-- The first exchanges of an executor that is asked the same again and again. -/
def exchanges (ex : Executor Answer σ) (r : ρ) (s : σ) (n : Nat) : List (Exchange Answer) :=
  (List.range n).map fun i => ⟨r, (ex r (asked ex r s i)).value⟩

theorem exchanges_succ (ex : Executor Answer σ) (r : ρ) (s : σ) (n : Nat) :
    exchanges ex r s (n + 1) = exchanges ex r s n ++ [⟨r, (ex r (asked ex r s n)).value⟩] := by
  rw [exchanges, List.range_succ, List.map_append]
  rfl

theorem asked_recorded (ex : Executor Answer σ) (r : ρ) (s : σ) (n : Nat) :
    asked ex.recorded r (s, []) n = (asked ex r s n, (exchanges ex r s n).reverse) := by
  induction n with
  | zero => rfl
  | succ n ih =>
    rw [asked, ih, exchanges_succ, List.reverse_append]
    rfl

theorem series_recorded (ex : Executor Answer σ) (r : ρ) (check : Answer r → Except ε (Option β))
    (s : σ) : series ex.recorded r check (s, []) = series ex r check s := by
  unfold series
  simp only [asked_recorded]
  rfl

/-- An executor that gives a series of checks. -/
def giving (c : Series ε β) : Executor (fun _ : Unit => Except ε (Option β)) Nat :=
  fun _ i => { value := c.found i, took := c.took i, state := i + 1 }

theorem asked_giving (c : Series ε β) (n : Nat) : asked (giving c) () 0 n = n := by
  induction n with
  | zero => rfl
  | succ n ih =>
    rw [asked, ih]
    rfl

/-- Every series is given by an executor. -/
theorem series_giving (c : Series ε β) : series (giving c) () id 0 = c := by
  ext1
  · funext i
    exact congrArg c.found (asked_giving c i)
  · funext i
    exact congrArg c.took (asked_giving c i)

theorem settles_eq_true_iff {a : Except ε (Option β)} : settles a = true ↔ a ≠ .ok none := by
  rcases a with e | _ | found <;> simp [settles]

/-! ## Runs of a poll -/

section Run

variable {ex : Executor Answer σ} {b : Bounds} {policy : Policy} {r : ρ}
  {check : Answer r → Except ε (Option β)} {s : σ}

/-- A check is final if it settles the poll or spends the limit. -/
theorem final_iff {c : Series ε β} {pause : Duration} {limit : Limit} {i : Nat} :
    c.Final pause limit i ↔
      settles (c.found i) = true ∨ limit.spent (i + 1) (c.ended pause i) = true := by
  rw [Series.Final, settles_eq_true_iff]
  refine or_congr_right ?_
  cases limit <;> simp [Limit.spent]

theorem now_after_check (now : Duration) (made : Nat) :
    now + (series ex r check s).start (Timed.cut b policy.interval) made +
        (ex r (asked ex r s made)).took =
      now + (series ex r check s).ended (Timed.cut b policy.interval) made :=
  Duration.add_assoc _ _ _

/-- After a check that is not final comes the next one. -/
theorem checks_of_not_final (hb : b.deadline = none) {made : Nat}
    (hnot : ¬ (series ex r check s).Final (Timed.cut b policy.interval) policy.limit made)
    (now : Duration) (fuel : Nat) :
    checks ex b policy r (fun a => settles (check a)) now (fuel + 1) made
        ⟨asked ex r s made,
          now + (series ex r check s).start (Timed.cut b policy.interval) made⟩ =
      checks ex b policy r (fun a => settles (check a)) now fuel (made + 1)
        ⟨asked ex r s (made + 1),
          now + (series ex r check s).start (Timed.cut b policy.interval) (made + 1)⟩ := by
  rw [final_iff, not_or] at hnot
  have hstop : ¬ settles (check (ex r (asked ex r s made)).value) = true := hnot.1
  rw [checks_of_deadline hb, now_after_check, Duration.add_sub_self, dif_neg hstop, if_neg hnot.2,
    Duration.add_assoc]
  rfl

/-- A final check ends the wait. -/
theorem checks_of_final (hb : b.deadline = none) {i : Nat}
    (hfinal : (series ex r check s).Final (Timed.cut b policy.interval) policy.limit i)
    (now : Duration) (fuel : Nat) :
    ∃ v : WaitEnd Answer r fun a => settles (check a),
      checks ex b policy r (fun a => settles (check a)) now (fuel + 1) i
          ⟨asked ex r s i, now + (series ex r check s).start (Timed.cut b policy.interval) i⟩ =
        (some v, ⟨asked ex r s (i + 1),
          now + (series ex r check s).ended (Timed.cut b policy.interval) i⟩) ∧
      ((∃ h, v = .ready (ex r (asked ex r s i)).value h) ∨
        (series ex r check s).found i = .ok none ∧
          v = .gaveUp ⟨i + 1, (series ex r check s).ended (Timed.cut b policy.interval) i⟩) := by
  rw [checks_of_deadline hb, now_after_check, Duration.add_sub_self]
  by_cases hstop : settles (check (ex r (asked ex r s i)).value) = true
  · rw [dif_pos hstop]
    exact ⟨_, rfl, Or.inl ⟨hstop, rfl⟩⟩
  · rw [dif_neg hstop, if_pos ((final_iff.1 hfinal).resolve_left hstop)]
    refine ⟨_, rfl, Or.inr ⟨?_, rfl⟩⟩
    exact not_not.1 fun hne => hstop (settles_eq_true_iff.2 hne)

/-- Where none of the next checks is final, they are all made. -/
theorem checks_after (hb : b.deadline = none) (now : Duration) (made n : Nat)
    (hopen : ∀ j, made ≤ j → j < made + n →
      ¬ (series ex r check s).Final (Timed.cut b policy.interval) policy.limit j) (fuel : Nat) :
    checks ex b policy r (fun a => settles (check a)) now (n + fuel) made
        ⟨asked ex r s made,
          now + (series ex r check s).start (Timed.cut b policy.interval) made⟩ =
      checks ex b policy r (fun a => settles (check a)) now fuel (made + n)
        ⟨asked ex r s (made + n),
          now + (series ex r check s).start (Timed.cut b policy.interval) (made + n)⟩ := by
  induction n generalizing made with
  | zero => rw [Nat.zero_add, Nat.add_zero]
  | succ n ih =>
    have hnext := ih (made + 1) fun j hj hjn => hopen j (by omega) (by omega)
    rw [Nat.succ_add, checks_of_not_final hb (hopen made (Nat.le_refl _) (by omega)), hnext,
      Nat.add_assoc, Nat.add_comm 1 n]

theorem await_of_not_forbids (hforbids : policy.limit.forbids = false)
    (stop : Answer r → Bool) (w : Timed σ) :
    await ex b policy r stop w = checks ex b policy r stop w.now b.checks 0 w := by
  rw [await, hforbids, if_neg Bool.false_ne_true]

theorem forbids_eq_false {limit : Limit} (h : limit ≠ .attempts 0) : limit.forbids = false := by
  cases limit with
  | attempts most =>
    rw [Limit.forbids, beq_eq_false_iff_ne]
    exact fun hmost => h (congrArg Limit.attempts hmost)
  | timeout time => rfl
  | unbounded => rfl

/-- A poll with a last check comes to the verdict on it, when that has ended. -/
theorem run_pollUntil_last (hb : b.deadline = none) (hlimit : policy.limit ≠ .attempts 0) {i : Nat}
    (hlast : (series ex r check s).Last (Timed.cut b policy.interval) policy.limit i)
    (hi : i < b.checks) (now : Duration) :
    run ex b (pollUntil policy r check) ⟨s, now⟩ =
      (some ((series ex r check s).verdict (Timed.cut b policy.interval) i),
        ⟨asked ex r s (i + 1),
          now + (series ex r check s).ended (Timed.cut b policy.interval) i⟩) := by
  obtain ⟨fuel, hfuel⟩ : ∃ fuel, b.checks = i + (fuel + 1) := ⟨b.checks - i - 1, by omega⟩
  have hbefore := checks_after hb now 0 i (fun j _ hj => hlast.2 j (by omega)) (fuel + 1)
  obtain ⟨v, hchecks, hv⟩ := checks_of_final hb hlast.1 now fuel
  rw [Nat.zero_add, hchecks, Series.start, asked, Duration.add_zero] at hbefore
  have hfound : (series ex r check s).found i = check (ex r (asked ex r s i)).value := rfl
  rw [pollUntil, run, await_of_not_forbids (forbids_eq_false hlimit), hfuel, hbefore]
  rcases hv with ⟨hstop, rfl⟩ | ⟨hnone, rfl⟩
  · dsimp only
    rw [Series.verdict, hfound]
    split
    · rename_i found hvalue
      rw [hvalue]
      rfl
    · rename_i e herror
      rw [herror]
      rfl
    · rename_i hnone
      exact absurd hnone (settles_eq_true_iff.1 hstop)
  · rw [Series.verdict, hnone]
    rfl

/-- A poll is not over as long as no check is final. -/
theorem run_pollUntil_open (hb : b.deadline = none) (hlimit : policy.limit ≠ .attempts 0)
    (hopen : ∀ j < b.checks,
      ¬ (series ex r check s).Final (Timed.cut b policy.interval) policy.limit j)
    (now : Duration) :
    ∃ now', run ex b (pollUntil policy r check) ⟨s, now⟩ = (none, ⟨asked ex r s b.checks, now'⟩) := by
  have hall := checks_after hb now 0 b.checks (fun j _ hj => hopen j (by omega)) 0
  rw [Nat.zero_add, Nat.add_zero, Series.start, asked, Duration.add_zero] at hall
  refine ⟨now + (series ex r check s).start (Timed.cut b policy.interval) b.checks, ?_⟩
  rw [pollUntil, run, await_of_not_forbids (forbids_eq_false hlimit), hall]
  rfl

theorem run_pollUntil_none (hlimit : policy.limit = .attempts 0) (w : Timed σ) :
    run ex b (pollUntil policy r check) w = (some (.ok (.exhausted ⟨0, .zero⟩)), w) := by
  rw [pollUntil, run, await, hlimit]
  rfl

/-! ## What a poll asked -/

theorem trace_pollUntil_last (hb : b.deadline = none) (hlimit : policy.limit ≠ .attempts 0) {i : Nat}
    (hlast : (series ex r check s).Last (Timed.cut b policy.interval) policy.limit i)
    (hi : i < b.checks) (now : Duration) :
    trace ex b (pollUntil policy r check) ⟨s, now⟩ = exchanges ex r s (i + 1) := by
  rw [← series_recorded] at hlast
  rw [trace, run_pollUntil_last hb hlimit hlast hi, asked_recorded]
  exact List.reverse_reverse _

theorem trace_pollUntil_open (hb : b.deadline = none) (hlimit : policy.limit ≠ .attempts 0)
    (hopen : ∀ j < b.checks,
      ¬ (series ex r check s).Final (Timed.cut b policy.interval) policy.limit j)
    (now : Duration) :
    trace ex b (pollUntil policy r check) ⟨s, now⟩ = exchanges ex r s b.checks := by
  rw [← series_recorded] at hopen
  obtain ⟨now', hrun⟩ := run_pollUntil_open hb hlimit hopen now
  rw [trace, hrun, asked_recorded]
  exact List.reverse_reverse _

theorem trace_pollUntil_none (hlimit : policy.limit = .attempts 0) (w : Timed σ) :
    trace ex b (pollUntil policy r check) w = [] := by
  rw [trace, run_pollUntil_none hlimit]
  rfl

/-- A poll that gave up had a last check, which found nothing. -/
theorem last_of_exhausted (hb : b.deadline = none) (hlimit : policy.limit ≠ .attempts 0)
    {now : Duration} {rep : Report}
    (hrun : (run ex b (pollUntil policy r check) ⟨s, now⟩).1 = some (.ok (.exhausted rep))) :
    ∃ i < b.checks, (series ex r check s).Last (Timed.cut b policy.interval) policy.limit i ∧
      (series ex r check s).found i = .ok none ∧
      rep = ⟨i + 1, (series ex r check s).ended (Timed.cut b policy.interval) i⟩ := by
  rcases Series.last_or_open (series ex r check s) (Timed.cut b policy.interval) policy.limit
    b.checks with ⟨i, hi, hlast⟩ | hopen
  · rw [run_pollUntil_last hb hlimit hlast hi] at hrun
    have hverdict := Option.some.inj hrun
    unfold Series.verdict at hverdict
    refine ⟨i, hi, hlast, ?_⟩
    split at hverdict
    · cases hverdict
    · rename_i hnone
      cases hverdict
      exact ⟨hnone, rfl⟩
    · cases hverdict
  · obtain ⟨now', hnone⟩ := run_pollUntil_open hb hlimit hopen now
    rw [hnone] at hrun
    cases hrun

end Run

/-- A poll makes the checks up to the first that is final and comes to the verdict on it as soon as
that has ended; it goes on while there is none, and makes no check at all if the limit allows none. A
limit on the time is exceeded when a poll gives up, by less than a pause when the last check starts;
with a pause at all it brings every poll to an end, and checks that find nothing and take no time
fill it with pauses. -/
theorem run_pollUntil_follows_policy (ex : Executor Answer σ) (policy : Policy) (r : ρ)
    (check : Answer r → Except ε (Option β)) (s : σ) (now : Duration) (most : Nat) :
    let d := policy.interval
    let c := series ex r check s
    let ended := run ex { checks := most } (pollUntil policy r check) ⟨s, now⟩
    let made := trace ex { checks := most } (pollUntil policy r check) ⟨s, now⟩
    (policy.limit = .attempts 0 →
      ended = (some (.ok (.exhausted ⟨0, .zero⟩)), ⟨s, now⟩) ∧ made = []) ∧
    (policy.limit ≠ .attempts 0 →
      (∀ i < most, c.Last d policy.limit i →
        ended = (some (c.verdict d i), ⟨asked ex r s (i + 1), now + c.ended d i⟩) ∧
          made = exchanges ex r s (i + 1)) ∧
      ((∀ j < most, ¬ c.Final d policy.limit j) →
        ended.1 = none ∧ made = exchanges ex r s most)) ∧
    ∀ time, policy.limit = .timeout time →
      (∀ rep, ended.1 = some (.ok (.exhausted rep)) → time ≤ rep.elapsed ∧
        ∃ i, rep = ⟨i + 1, c.ended d i⟩ ∧ (i = 0 ∨ c.start d i < time + d)) ∧
      (0 < d.nanos → time.nanos ⌈/⌉ d.nanos < most →
        ended.1 ≠ none ∧
        ((∀ i ≤ time.nanos ⌈/⌉ d.nanos, c.took i = .zero ∧ c.found i = .ok none) →
          ended.1 = some (.ok (.exhausted
            ⟨time.nanos ⌈/⌉ d.nanos + 1, ⟨d.nanos * (time.nanos ⌈/⌉ d.nanos)⟩⟩)) ∧
          made.length = time.nanos ⌈/⌉ d.nanos + 1)) := by
  intro d c ended made
  -- nothing but the policy says how long a pause is
  have hcut : Timed.cut { checks := most } policy.interval = d := rfl
  refine ⟨fun hlimit => ⟨run_pollUntil_none hlimit _, trace_pollUntil_none hlimit _⟩,
    fun hlimit => ⟨fun i hi hlast => ?_, fun hopen => ?_⟩, fun time htime => ?_⟩
  · exact ⟨run_pollUntil_last rfl hlimit hlast hi now, trace_pollUntil_last rfl hlimit hlast hi now⟩
  · obtain ⟨now', hrun⟩ := run_pollUntil_open (b := { checks := most }) rfl hlimit hopen now
    exact ⟨congrArg Prod.fst hrun, trace_pollUntil_open rfl hlimit hopen now⟩
  have hlimit : policy.limit ≠ .attempts 0 := by
    rw [htime]
    exact Limit.noConfusion
  refine ⟨fun rep hrun => ?_, fun hd hmost => ?_⟩
  · obtain ⟨i, -, hlast, hnone, rfl⟩ := last_of_exhausted rfl hlimit hrun
    rw [htime] at hlast
    obtain ⟨helapsed, hstart⟩ := hlast.timeout hnone
    exact ⟨helapsed, i, rfl, hstart⟩
  · refine ⟨?_, fun hinstant => ?_⟩
    · obtain ⟨i, hi, hlast⟩ := Series.exists_last c time hd
      rw [← htime] at hlast
      rw [show ended = _ from run_pollUntil_last rfl hlimit hlast (hi.trans_lt hmost) now]
      exact Option.some_ne_none _
    · have hlast := Series.last_of_instant hd hinstant
      rw [← htime] at hlast
      have hended : c.ended d (time.nanos ⌈/⌉ d.nanos) = ⟨d.nanos * (time.nanos ⌈/⌉ d.nanos)⟩ :=
        Series.ended_of_instant fun j hj => (hinstant j hj).1
      constructor
      · rw [show ended = _ from run_pollUntil_last rfl hlimit hlast hmost now, Series.verdict,
          (hinstant _ (Nat.le_refl _)).2]
        dsimp only
        rw [hcut, hended]
      · rw [show made = _ from trace_pollUntil_last rfl hlimit hlast hmost now, exchanges,
          List.length_map, List.length_range]

/-- A quarter of a second and a pause of 100 ms: a second check that starts after it still finds its
value, and instant checks that find nothing give up with the fourth. -/
theorem run_pollUntil_follows_policy_quarter :
    let policy : Policy := ⟨.ofMillis 100, .timeout (.ofMillis 250)⟩
    let b : Bounds := { checks := 10 }
    let slow : Series Empty Nat :=
      ⟨fun i => .ok (if i = 1 then some 7 else none), fun _ => .ofMillis 200⟩
    let instant : Series Empty Nat := ⟨fun _ => .ok none, fun _ => .zero⟩
    run (giving slow) b (pollUntil policy () id) ⟨0, .zero⟩ =
        (some (.ok (.ready 7)), ⟨2, .ofMillis 500⟩) ∧
      (run (giving instant) b (pollUntil policy () id) ⟨0, .zero⟩).1 =
        some (.ok (.exhausted ⟨4, .ofMillis 300⟩)) ∧
      (trace (giving instant) b (pollUntil policy () id) ⟨0, .zero⟩).length = 4 := by
  intro policy b slow instant
  obtain ⟨-, hslow, -⟩ := run_pollUntil_follows_policy (giving slow) policy () id 0 .zero 10
  obtain ⟨-, -, hinstant⟩ := run_pollUntil_follows_policy (giving instant) policy () id 0 .zero 10
  obtain ⟨-, htime⟩ := hinstant (.ofMillis 250) rfl
  have hpauses : (Duration.ofMillis 250).nanos ⌈/⌉ policy.interval.nanos = 3 := by decide +kernel
  rw [hpauses, series_giving instant] at htime
  rw [series_giving slow] at hslow
  have hlast : slow.Last policy.interval policy.limit 1 := by
    refine ⟨Or.inl (fun h => nomatch h), fun j hj => ?_⟩
    obtain rfl : j = 0 := by omega
    rw [Series.final_timeout_iff rfl]
    decide
  obtain ⟨hready, -⟩ := (hslow Limit.noConfusion).1 1 (by decide) hlast
  obtain ⟨-, hfilled⟩ := htime (by decide) (by decide)
  obtain ⟨hgave, hmade⟩ := hfilled fun _ _ => ⟨rfl, rfl⟩
  refine ⟨hready.trans ?_, hgave.trans ?_, hmade⟩
  · have hended : .zero + slow.ended policy.interval 1 = .ofMillis 500 := by decide
    rw [hended]
    rfl
  · have helapsed : Duration.mk (policy.interval.nanos * 3) = .ofMillis 300 := by decide
    rw [helapsed]

end Plan

end PaneRunner
