import Mathlib.Algebra.Order.Floor.Div
import PaneRunner.Proofs.Config.Valid
import PaneRunner.Proofs.Trace.Window

/-
  How many calls a run makes. `EndsWithin`: from wherever it starts, a plan comes to a value, and
  has made so many calls then at most; plans in a row add up (`EndsWithin.bind`). A wait makes one
  call a look, and a policy is `Paced` when it lets no look follow the last of so many that are a
  pause apart: those that count looks are, and so are those that measure time, once the pause is
  longer than nothing (`paced_timeout`). So a run under a valid configuration with a time limit
  ends, whatever it is answered and however long the answers take (`run_ends_within`).
-/
namespace PaneRunner

namespace Plan

variable {ρ : Type} {Answer : ρ → Type} {α β σ : Type}

/-- From wherever it starts, the plan comes to a value, and makes so many calls until then at
most. -/
def EndsWithin (ex : Executor Answer σ) (b : Bounds) (p : Plan Answer α) (most : Nat) : Prop :=
  ∀ s log now, ∃ a s' log' now',
    run ex.recorded b p ⟨(s, log), now⟩ = (some a, ⟨(s', log'), now'⟩) ∧
      log'.length ≤ log.length + most

/-- No look follows the `most`-th when all were a pause apart. -/
def Paced (b : Bounds) (policy : Poll.Policy) (most : Nat) : Prop :=
  0 < most ∧ ∀ made elapsed, most ≤ made + 1 →
    made * (Timed.cut b policy.interval).nanos ≤ elapsed.nanos →
      policy.limit.spent (made + 1) elapsed = true

theorem paced_attempts (b : Bounds) (interval : Duration) {most : Nat} (h : 0 < most) :
    Paced b ⟨interval, .attempts most⟩ most := by
  refine ⟨h, fun made elapsed hmost _ => ?_⟩
  exact decide_eq_true hmost

/-- Time is up when the pauses alone fill it. -/
theorem paced_timeout (b : Bounds) (interval limit : Duration)
    (h : 0 < (Timed.cut b interval).nanos) :
    Paced b ⟨interval, .timeout limit⟩ (limit.nanos ⌈/⌉ (Timed.cut b interval).nanos + 1) := by
  refine ⟨Nat.succ_pos _, fun made elapsed hmost helapsed => ?_⟩
  have hfilled : limit.nanos ≤ (Timed.cut b interval).nanos * made :=
    (ceilDiv_le_iff_le_mul h).1 (Nat.le_of_succ_le_succ hmost)
  have hlimit : limit ≤ elapsed := by
    rw [Duration.le_def]
    rw [Nat.mul_comm] at hfilled
    exact hfilled.trans helapsed
  exact decide_eq_true hlimit

namespace EndsWithin

variable {ex : Executor Answer σ} {b : Bounds} {m n : Nat}

/-- What that says of a run. -/
theorem run_trace {p : Plan Answer α} (h : EndsWithin ex b p n) (w : Timed σ) :
    (run ex b p w).1 ≠ none ∧ (trace ex b p w).length ≤ n := by
  obtain ⟨a, s', log', now', hrun, hlength⟩ := h w.state [] w.now
  have hrecorded := run_recorded ex b p w.state [] w.now
  rw [hrun] at hrecorded
  constructor
  · intro hnone
    have hvalue := congrArg Prod.fst hrecorded
    exact absurd (hvalue.trans hnone) (Option.some_ne_none a)
  · have hlog : log' = (trace ex b p w).reverse ++ [] :=
      congrArg (fun r => r.2.state.2) hrecorded
    rw [hlog] at hlength
    simpa using hlength

theorem mono {p : Plan Answer α} (h : EndsWithin ex b p m) (hmn : m ≤ n) :
    EndsWithin ex b p n := by
  intro s log now
  obtain ⟨a, s', log', now', hrun, hlength⟩ := h s log now
  exact ⟨a, s', log', now', hrun, by omega⟩

theorem done (a : α) : EndsWithin ex b (.done a) 0 :=
  fun s log now => ⟨a, s, log, now, rfl, Nat.le_refl _⟩

/-- Plans in a row add up. -/
theorem bind {p : Plan Answer α} {f : α → Plan Answer β} (h : EndsWithin ex b p m)
    (hf : ∀ a, EndsWithin ex b (f a) n) : EndsWithin ex b (p.bind f) (m + n) := by
  intro s log now
  obtain ⟨a, s₁, log₁, now₁, hrun₁, hlength₁⟩ := h s log now
  obtain ⟨c, s₂, log₂, now₂, hrun₂, hlength₂⟩ := hf a s₁ log₁ now₁
  refine ⟨c, s₂, log₂, now₂, ?_, by omega⟩
  rw [run_bind, hrun₁]
  exact hrun₂

/-- A call that is put to the recorded executor is one more entry of the log. -/
theorem put_recorded (hb : b.deadline = none) (r : ρ) (s : σ) (log : List (Exchange Answer))
    (now : Duration) :
    put ex.recorded b r ⟨(s, log), now⟩ =
      (some (ex r s).value, ⟨((ex r s).state, ⟨r, (ex r s).value⟩ :: log),
        now + (ex r s).took⟩) :=
  put_of_deadline hb r (s, log) now

theorem ask (hb : b.deadline = none) {r : ρ} {next : Answer r → Plan Answer α}
    (h : ∀ a, EndsWithin ex b (next a) n) : EndsWithin ex b (.ask r next) (n + 1) := by
  intro s log now
  obtain ⟨a, s', log', now', hrun, hlength⟩ :=
    h (ex r s).value (ex r s).state (⟨r, (ex r s).value⟩ :: log) (now + (ex r s).took)
  refine ⟨a, s', log', now', ?_, ?_⟩
  · rw [run, put_recorded hb]
    exact hrun
  · rw [List.length_cons] at hlength
    omega

/-- The looks of a wait from the one on that follows `made` others, when those were a pause apart.
By induction on the looks that are left. -/
theorem checks_paced (hb : b.deadline = none) {policy : Poll.Policy} {most : Nat}
    (hpaced : Paced b policy most) (r : ρ) (stop : Answer r → Bool) (start : Duration)
    {fuel made : Nat} (hmade : made < most) (hfuel : most - made ≤ fuel) (s : σ)
    (log : List (Exchange Answer)) {now : Duration}
    (hnow : start.nanos + made * (Timed.cut b policy.interval).nanos ≤ now.nanos) :
    ∃ v s' log' now',
      checks ex.recorded b policy r stop start fuel made ⟨(s, log), now⟩ =
        (some v, ⟨(s', log'), now'⟩) ∧ log'.length ≤ log.length + (most - made) := by
  induction fuel generalizing made s log now with
  | zero => omega
  | succ fuel ih =>
    rw [checks, put_recorded hb]
    dsimp only
    by_cases hstop : stop (ex r s).value = true
    · rw [dif_pos hstop]
      refine ⟨_, _, _, _, rfl, ?_⟩
      rw [List.length_cons]
      omega
    rw [dif_neg hstop]
    by_cases hspent : policy.limit.spent (made + 1)
        (now + (ex r s).took - start) = true
    · rw [if_pos hspent]
      refine ⟨_, _, _, _, rfl, ?_⟩
      rw [List.length_cons]
      omega
    · rw [if_neg hspent, pass_of_deadline hb]
      -- the limit is not spent, so this was not the last look
      have helapsed : made * (Timed.cut b policy.interval).nanos ≤
          (now + (ex r s).took - start).nanos := by
        rw [Duration.nanos_sub, Duration.nanos_add]
        omega
      have hmore : made + 1 < most := by
        by_contra hlast
        exact hspent (hpaced.2 made _ (Nat.le_of_not_lt hlast) helapsed)
      have hlater : start.nanos + (made + 1) * (Timed.cut b policy.interval).nanos ≤
          (now + (ex r s).took + Timed.cut b policy.interval).nanos := by
        rw [Duration.nanos_add, Duration.nanos_add, Nat.succ_mul]
        omega
      obtain ⟨v, s', log', now', hchecks, hlength⟩ :=
        ih hmore (by omega) (ex r s).state (⟨r, (ex r s).value⟩ :: log) hlater
      refine ⟨v, s', log', now', hchecks, ?_⟩
      rw [List.length_cons] at hlength
      omega

/-- A wait is its looks and what follows them. -/
theorem wait (hb : b.deadline = none) {policy : Poll.Policy} {most : Nat}
    (hpaced : Paced b policy most) (hmost : most ≤ b.checks) {r : ρ} {stop : Answer r → Bool}
    {next : (a : Answer r) → stop a = true → Plan Answer α} {gaveUp : Poll.Report → Plan Answer α}
    (hnext : ∀ a ha, EndsWithin ex b (next a ha) n)
    (hgaveUp : ∀ rep, EndsWithin ex b (gaveUp rep) n) :
    EndsWithin ex b (.wait policy r stop next gaveUp) (most + n) := by
  intro s log now
  have hawait : ∃ v s' log' now',
      await ex.recorded b policy r stop ⟨(s, log), now⟩ = (some v, ⟨(s', log'), now'⟩) ∧
        log'.length ≤ log.length + most := by
    unfold await
    split
    · exact ⟨_, s, log, now, rfl, Nat.le_add_right _ _⟩
    · exact checks_paced hb hpaced r stop now hpaced.1 hmost s log (by simp)
  obtain ⟨v, s₁, log₁, now₁, hawait, hlength₁⟩ := hawait
  cases v with
  | ready a ha =>
    obtain ⟨c, s₂, log₂, now₂, hrun, hlength₂⟩ := hnext a ha s₁ log₁ now₁
    refine ⟨c, s₂, log₂, now₂, ?_, by omega⟩
    rw [run, hawait]
    exact hrun
  | gaveUp rep =>
    obtain ⟨c, s₂, log₂, now₂, hrun, hlength₂⟩ := hgaveUp rep s₁ log₁ now₁
    refine ⟨c, s₂, log₂, now₂, ?_, by omega⟩
    rw [run, hawait]
    exact hrun

/-! ## Actions -/

section Actions

open Tmux

variable {α β : Type} {ex : Executor Exec.Answer σ}

theorem ofExcept (r : Except Error α) : EndsWithin ex b (Action.ofExcept r).run 0 := done r

theorem pure (a : α) : EndsWithin ex b (Pure.pure a : Action α).run 0 := ofExcept (.ok a)

theorem throw (e : Error) : EndsWithin ex b (MonadExcept.throw e : Action α).run 0 :=
  ofExcept (.error e)

theorem seq {x : Action α} {f : α → Action β} (hx : EndsWithin ex b x.run m)
    (hf : ∀ a, EndsWithin ex b (f a).run n) : EndsWithin ex b (x >>= f).run (m + n) := by
  refine EndsWithin.bind (f := ExceptT.bindCont f) hx fun r => ?_
  cases r with
  | error e => exact (done (Except.error e)).mono (Nat.zero_le n)
  | ok a => exact hf a

theorem attempt {x : Action α} (hx : EndsWithin ex b x.run n) : EndsWithin ex b x.attempt.run n :=
  EndsWithin.bind hx fun r => done (Except.ok r)

theorem ofAnswer (hb : b.deadline = none) {r : Exec.Request}
    (view : Exec.Answer r → Except Exec.Error α) :
    EndsWithin ex b (Action.ofAnswer (.ask r fun a => .done (view a))).run 1 :=
  ask hb fun _ => done _

theorem tmux (hb : b.deadline = none) (cfg : Settings) (args : List String) :
    EndsWithin ex b (cfg.tmux args).run 1 :=
  ask hb fun _ => done _

theorem tmuxAny (hb : b.deadline = none) (cfg : Settings) (args : List String) :
    EndsWithin ex b (cfg.tmuxAny args).run 1 :=
  ask hb fun _ => done _

/-- A poll is its looks, and what it does when it gives up. -/
theorem pollOn (hb : b.deadline = none) {policy : Poll.Policy} {most : Nat}
    (hpaced : Paced b policy most) (hmost : most ≤ b.checks) {r : Exec.Request}
    {view : Exec.Answer r → Except Exec.Error α} {check : α → Option β}
    {gaveUp : Poll.Report → Action β} (hgaveUp : ∀ rep, EndsWithin ex b (gaveUp rep).run n) :
    EndsWithin ex b (Action.pollOn policy r view check gaveUp).run (most + n) := by
  have hpoll : EndsWithin ex b
      (pollUntil policy r fun a => ((view a).mapError Error.exec).map check) (most + 0) := by
    refine wait hb hpaced hmost (fun a ha => ?_) fun rep => done _
    split
    · exact done _
    · exact done _
    · rename_i hnone
      exact absurd ha (by simp [hnone, settles])
  refine EndsWithin.bind hpoll fun outcome => ?_
  rcases outcome with e | found | rep
  · exact (done (Except.error e)).mono (Nat.zero_le n)
  · exact (done (Except.ok found)).mono (Nat.zero_le n)
  · exact hgaveUp rep

end Actions

end EndsWithin

end Plan

/-! ## Runs of commands -/

namespace Tmux.Window

open Plan

variable {σ : Type} {ex : Executor Exec.Answer σ} {b : Bounds} {cfg : Settings} {w : Window}
  {prompts looks flushes : Nat}

theorem endsWithin_exists_session (hb : b.deadline = none) (s : Session) :
    EndsWithin ex b (s.exists? cfg).run 1 := by
  have hlisted : EndsWithin ex b cfg.sessionNames.run (1 + 0) := by
    refine (EndsWithin.tmuxAny hb cfg _).seq fun o => ?_
    split
    · exact EndsWithin.pure _
    · split
      · exact EndsWithin.pure _
      · exact EndsWithin.throw _
  exact hlisted.seq fun names => EndsWithin.pure _

theorem endsWithin_exists (hb : b.deadline = none) : EndsWithin ex b (w.exists? cfg).run 2 := by
  have hlisted : EndsWithin ex b (w.session.windowNames cfg).run (1 + 1) := by
    refine (endsWithin_exists_session hb w.session).seq fun here => ?_
    split
    · exact (EndsWithin.tmux hb cfg _).seq fun o => EndsWithin.pure _
    · exact (EndsWithin.pure _).mono (Nat.zero_le 1)
  exact hlisted.seq fun names => EndsWithin.pure _

/-- Making a window takes four calls at most: the window is asked for, then the session once more,
then one of them is made. -/
theorem endsWithin_create (hb : b.deadline = none) : EndsWithin ex b (w.create cfg).run 4 := by
  have hmade : EndsWithin ex b (w.create cfg).run (2 + (1 + 1)) := by
    refine (endsWithin_exists hb).seq fun here => ?_
    split
    · exact (EndsWithin.pure _).mono (Nat.zero_le _)
    refine (endsWithin_exists_session hb w.session).seq fun here => ?_
    split
    · exact (EndsWithin.tmux hb cfg _).seq fun o => EndsWithin.pure _
    · exact (EndsWithin.tmux hb cfg _).seq fun o => EndsWithin.pure _
  exact hmade

theorem endsWithin_getReady (hb : b.deadline = none) (hprompt : Paced b cfg.promptReady prompts)
    (hprompts : prompts ≤ b.checks) : EndsWithin ex b (w.getReady cfg).run (4 + prompts) := by
  refine (endsWithin_create hb).seq fun _ => ?_
  exact EndsWithin.pollOn hb hprompt hprompts fun _ => EndsWithin.throw _

theorem endsWithin_typeAndAwait (hb : b.deadline = none) (hend : Paced b cfg.commandCompletion looks)
    (hlooks : looks ≤ b.checks) (argv : List String) :
    EndsWithin ex b (w.typeAndAwait cfg argv).run (1 + (1 + looks)) := by
  rw [typeAndAwait_eq]
  refine (EndsWithin.tmux hb cfg _).seq fun _ => ?_
  refine (EndsWithin.tmux hb cfg _).seq fun _ => ?_
  exact EndsWithin.pollOn hb hend hlooks fun _ => EndsWithin.throw _

/-- A wait for a complete file that gives up reads it once more. -/
theorem endsWithin_captureLines (hb : b.deadline = none) (hflush : Paced b cfg.captureFlush flushes)
    (hflushes : flushes ≤ b.checks) (path : String) :
    EndsWithin ex b (cfg.captureLines path).run (flushes + 1) := by
  refine EndsWithin.pollOn hb hflush hflushes fun _ => ?_
  exact (EndsWithin.ofAnswer (r := .contents path) hb fun a => a).seq fun _ => EndsWithin.pure _

theorem endsWithin_conclude (hb : b.deadline = none) (hflush : Paced b cfg.captureFlush flushes)
    (hflushes : flushes ≤ b.checks) (path : String) (argv : List String) (acceptAny : Bool)
    (waited : Except Error Unit) (stopped : Except Error Exec.Output) :
    EndsWithin ex b (w.conclude cfg path argv acceptAny waited stopped).run (flushes + 1) := by
  have hends : EndsWithin ex b (w.conclude cfg path argv acceptAny waited stopped).run
      (0 + (0 + (flushes + 1 + 0))) := by
    refine (EndsWithin.ofExcept waited).seq fun _ => (EndsWithin.ofExcept stopped).seq fun _ => ?_
    refine (endsWithin_captureLines hb hflush hflushes path).seq fun ls => ?_
    exact (EndsWithin.ofExcept _).seq fun c => EndsWithin.ofExcept _
  exact hends.mono (by omega)

/-- A run makes twelve calls at most beside its looks. -/
theorem endsWithin_run (hb : b.deadline = none) (hprompt : Paced b cfg.promptReady prompts)
    (hend : Paced b cfg.commandCompletion looks) (hflush : Paced b cfg.captureFlush flushes)
    (hprompts : prompts ≤ b.checks) (hlooks : looks ≤ b.checks) (hflushes : flushes ≤ b.checks)
    (argv : List String) (acceptAny : Bool) :
    EndsWithin ex b (w.run cfg argv acceptAny).run (prompts + looks + flushes + 11) := by
  rcases eq_or_ne argv [] with rfl | hargv
  · exact (EndsWithin.throw _).mono (Nat.zero_le _)
  rw [run_eq cfg w hargv]
  have hinto : ∀ path, EndsWithin ex b (w.runInto cfg path argv acceptAny).run
      (1 + (1 + (1 + looks) + (1 + (flushes + 1)))) := by
    intro path
    refine (EndsWithin.tmux hb cfg _).seq fun _ => ?_
    refine (endsWithin_typeAndAwait hb hend hlooks argv).attempt.seq fun waited => ?_
    refine (EndsWithin.tmux hb cfg _).attempt.seq fun stopped => ?_
    exact endsWithin_conclude hb hflush hflushes path argv acceptAny waited stopped
  have hpiped : EndsWithin ex b (w.runPiped cfg argv acceptAny).run
      (1 + (1 + (1 + (1 + looks) + (1 + (flushes + 1))) + (1 + 0))) := by
    refine (EndsWithin.ofAnswer (r := .newFile) hb fun a => a).seq fun path => ?_
    refine (hinto path).attempt.seq fun result => ?_
    refine (EndsWithin.ofAnswer (r := .removeFile path) hb fun a => a).attempt.seq fun _ => ?_
    exact EndsWithin.ofExcept result
  refine ((endsWithin_getReady hb hprompt hprompts).seq fun _ => hpiped).mono ?_
  omega

/-! ## Runs under a time limit -/

theorem nanos_cut_pos {d : Duration} (hpause : ∀ longest, b.pause = some longest → 0 < longest.nanos)
    (hd : 0 < d.nanos) : 0 < (Timed.cut b d).nanos := by
  unfold Timed.cut
  cases hlongest : b.pause with
  | none => exact hd
  | some longest =>
    dsimp only [Duration.onTimer]
    split
    · exact hpause longest hlongest
    · change 0 < (d.nanos + 999999) / 1000000 * 1000000
      omega

/-- Under a valid configuration with a time limit every run ends, and makes no more calls than its
attempts, its pauses and twelve others. The pauses are as long as a timer can be set to, if the
configured ones are longer. -/
theorem run_ends_within {c : Config} (hvalid : c.validate = .ok ()) {raw : String}
    (hraw : c.polling.commandTimeout = some raw) :
    ∃ limit target cfg, Duration.parse? raw = some limit ∧ 0 < limit.nanos ∧
      c.targetOf = .ok target ∧ c.settings = .ok cfg ∧ cfg.commandTimeout = some limit ∧
      cfg.completionInterval = .ofMillis c.polling.completionInterval ∧
      ∀ {σ : Type} (ex : Executor Exec.Answer σ) (b : Bounds) (w : Window) (argv : List String)
        (acceptAny : Bool) (s : Timed σ) (most : Nat), b.deadline = none →
        (∀ longest, b.pause = some longest → 0 < longest.nanos) →
        most = c.polling.promptAttempts + c.polling.flushAttempts +
          limit.nanos ⌈/⌉ (Timed.cut b cfg.completionInterval).nanos + 12 → most ≤ b.checks →
          (Plan.run ex b (w.run cfg argv acceptAny).run s).1 ≠ none ∧
            (trace ex b (w.run cfg argv acceptAny).run s).length ≤ most := by
  have hvalid := Config.validate_eq_ok_iff.1 hvalid
  obtain ⟨target, htarget⟩ := hvalid.target
  obtain ⟨cfg, hsettings, htimeout, -, hready, hflush, hinterval⟩ := hvalid.settings
  obtain ⟨limit, hparse, hzero, hlimit⟩ := Config.parse?_of_commandTimeout hraw htimeout
  refine ⟨limit, target, cfg, hparse, ?_, htarget, hsettings, hlimit, hinterval, ?_⟩
  · exact Nat.pos_of_ne_zero fun h => hzero (congrArg Duration.mk h)
  intro σ ex b w argv acceptAny s most hb hpause hmost hchecks
  have hprompts : 0 < c.polling.promptAttempts :=
    Nat.pos_of_ne_zero (hvalid.counts ("polling.prompt_attempts", _) (by simp [Config.counts]))
  have hflushes : 0 < c.polling.flushAttempts :=
    Nat.pos_of_ne_zero (hvalid.counts ("polling.capture_flush_attempts", _) (by simp [Config.counts]))
  have hpause : 0 < (Timed.cut b cfg.completionInterval).nanos := by
    have hmillis : 0 < c.polling.completionInterval := Nat.pos_of_ne_zero
      (hvalid.counts ("polling.completion_interval_ms", _) (by simp [Config.counts]))
    refine nanos_cut_pos hpause ?_
    rw [hinterval]
    exact Nat.mul_pos hmillis (by decide)
  have hcompletion : cfg.commandCompletion = ⟨cfg.completionInterval, .timeout limit⟩ := by
    unfold Settings.commandCompletion Poll.Policy.commandCompletion
    rw [hlimit]
  have hpromptPaced : Paced b cfg.promptReady c.polling.promptAttempts := by
    rw [hready]
    exact paced_attempts b _ hprompts
  have hflushPaced : Paced b cfg.captureFlush c.polling.flushAttempts := by
    rw [hflush]
    exact paced_attempts b _ hflushes
  have hcompletionPaced : Paced b cfg.commandCompletion
      (limit.nanos ⌈/⌉ (Timed.cut b cfg.completionInterval).nanos + 1) := by
    rw [hcompletion]
    exact paced_timeout b _ limit hpause
  have hends : EndsWithin ex b (w.run cfg argv acceptAny).run most :=
    (endsWithin_run hb hpromptPaced hcompletionPaced hflushPaced (by omega) (by omega) (by omega)
      argv acceptAny).mono (by omega)
  exact hends.run_trace s

/-- A command of one minute that never ends. -/
theorem run_ends_within_minute :
    let c : Config := { polling := { commandTimeout := some "1m" } }
    let w : Window := ⟨⟨"s", by decide⟩, "w", by decide⟩
    let ex := still "$ \n" "" (.ok ())
    let b : Bounds := { pause := some timerLimit, checks := 362 }
    ∃ cfg, c.settings = .ok cfg ∧
      (Plan.run ex b (w.run cfg ["e"] false).run ⟨(), .zero⟩).1 ≠ none ∧
      (trace ex b (w.run cfg ["e"] false).run ⟨(), .zero⟩).length ≤ 362 := by
  intro c w ex b
  obtain ⟨limit, _, cfg, hparse, -, -, hsettings, -, hinterval, hruns⟩ :=
    run_ends_within (c := { polling := { commandTimeout := some "1m" } }) (by rfl) (by rfl)
  obtain rfl : limit = .ofSecs 60 := Option.some.inj (hparse.symm.trans (by rfl))
  refine ⟨cfg, hsettings, hruns ex b w ["e"] false ⟨(), .zero⟩ 362 rfl ?_ ?_ (Nat.le_refl _)⟩
  · rintro longest ⟨⟩
    decide
  · rw [hinterval]
    decide +kernel

/-- With looks three hundred years apart and a limit of as many years, timers of thirty years make
eleven looks, where two would do. -/
theorem run_exceeds_uncut_pauses :
    let c : Config := { polling := {
      promptAttempts := 1, flushAttempts := 1, completionInterval := 9460800000000,
      commandTimeout := some "109500d" } }
    let w : Window := ⟨⟨"s", by decide⟩, "w", by decide⟩
    let ex := still "$ \n" "" (.ok ())
    let b : Bounds := { pause := some timerLimit, checks := 100 }
    c.validate = .ok () ∧ ∃ limit cfg, Duration.parse? "109500d" = some limit ∧
      c.settings = .ok cfg ∧
      ¬ (trace ex b (w.run cfg ["e"] false).run ⟨(), .zero⟩).length ≤
        c.polling.promptAttempts + c.polling.flushAttempts +
          limit.nanos ⌈/⌉ cfg.completionInterval.nanos + 12 := by
  have hparse : Duration.parse? "109500d" = some (.ofSecs 9460800000) := by decide +kernel
  refine ⟨by rfl, .ofSecs 9460800000, _, hparse, rfl, ?_⟩
  decide +kernel

end Tmux.Window

end PaneRunner
