import PaneRunner.Cli.Perform
import PaneRunner.Proofs.Trace.Results
import PaneRunner.Proofs.Trace.Window

/-
  Commands that end with a non-zero exit code. A run that rejects them is a run that accepts them,
  with a look at the exit code after it (`Window.run_false`), since nothing is asked after the
  capture was judged but the removal of its file. A run that accepts never fails for an exit code,
  and all of its output is on the standard output (`Window.accepted_run`), so the report of a
  rejected output is the report of the accepted one with a line of diagnostics
  (`runReport_reject`). `Reports` says of both what the command's end makes of them.
-/
namespace PaneRunner.Tmux

open Plan (Yields Outcome)

/-- The failure is that of a command that ended with a non-zero exit code. -/
def Error.IsRejection : Error → Prop
  | .commandFailed .. => True
  | _ => False

theorem not_isRejection_exec (e : Exec.Error) : ¬ (Error.exec e).IsRejection := fun h => h

namespace Action

variable {α β : Type}

/-- No error of the action is that of a command whose exit code is rejected. -/
abbrev NeverRejects (x : Action α) : Prop :=
  Yields (Outcome (fun e => ¬ e.IsRejection) fun _ => True) x.run

theorem ofExcept_bind (r : Except Error α) (f : α → Except Error β) :
    ofExcept (r >>= f) = ofExcept r >>= fun a => ofExcept (f a) := by
  cases r <;> rfl

/-- An action whose value is checked afterwards comes to what the action came to, checked. -/
theorem attempt_bind_ofExcept (x : Action α) (f : α → Except Error β) :
    (x >>= fun a => ofExcept (f a)).attempt = x.attempt >>= fun r => pure (r >>= f) := by
  change (x.run.bind _).bind _ = (x.run.bind _).bind _
  rw [Plan.bind_assoc, Plan.bind_assoc]
  congr 1
  funext r
  cases r <;> rfl

end Action

namespace Window

variable (cfg : Settings) (w : Window) (path : String) (argv : List String)

/-! ## A look at the exit code -/

/-- An output, unless its exit code is to be rejected. -/
def reject (o : Exec.Output) : Except Error Exec.Output :=
  if o.code = 0 then .ok o
  else .error (.commandFailed w.address (Shell.join argv) o.code o.stdout)

theorem judge_true (c : Capture) :
    w.judge argv true c = .ok { stdout := c.stdout, code := c.code } := by
  simp [judge]

theorem judge_false (c : Capture) :
    w.judge argv false c = w.judge argv true c >>= w.reject argv := by
  rw [judge_true]
  change _ = w.reject argv _
  by_cases hcode : c.code = 0 <;> simp [judge, reject, hcode]

theorem runInto_false :
    w.runInto cfg path argv false =
      w.runInto cfg path argv true >>= fun o => Action.ofExcept (w.reject argv o) := by
  simp only [runInto, judge_false, Action.ofExcept_bind, bind_assoc]

/-- A run that rejects is a run that accepts, with a look at the exit code after it. -/
theorem run_false :
    w.run cfg argv false = w.run cfg argv true >>= fun o => Action.ofExcept (w.reject argv o) := by
  unfold run
  split
  · rfl
  -- the look is taken before the file is removed, and the removal does not depend on it
  · simp only [runInto_false, Action.attempt_bind_ofExcept, Action.ofExcept_bind, bind_assoc,
      pure_bind]

/-! ## What a run comes to that accepts every exit code -/

theorem neverRejects_sessionNames : Action.NeverRejects cfg.sessionNames := by
  refine Yields.seq (.tmuxAny not_isRejection_exec cfg _) fun o _ => ?_
  split
  · exact Yields.pure _
  split
  · exact Yields.pure _
  · exact Yields.throw (not_isRejection_exec _)

theorem neverRejects_exists? (s : Session) : Action.NeverRejects (s.exists? cfg) :=
  Yields.seq (neverRejects_sessionNames cfg) fun _ _ => .pure _

theorem neverRejects_windowNames (s : Session) : Action.NeverRejects (s.windowNames cfg) := by
  refine Yields.seq (neverRejects_exists? cfg s) fun there _ => ?_
  split
  · exact Yields.seq (.tmux not_isRejection_exec cfg _) fun _ _ => .pure _
  · exact Yields.pure _

theorem neverRejects_create : Action.NeverRejects (w.create cfg) := by
  refine Yields.seq (Yields.seq (neverRejects_windowNames cfg w.session) fun _ _ => .pure _)
    fun there _ => ?_
  split
  · exact Yields.pure _
  refine Yields.seq (neverRejects_exists? cfg w.session) fun _ _ => ?_
  split
  all_goals exact Yields.seq (.tmux not_isRejection_exec cfg _) fun _ _ => .pure _

theorem neverRejects_awaitPrompt : Action.NeverRejects (w.awaitPrompt cfg) :=
  .pollOn not_isRejection_exec fun _ => .throw fun h => h

theorem neverRejects_typeAndAwait : Action.NeverRejects (w.typeAndAwait cfg argv) := by
  have htoken : ∀ token, Action.NeverRejects
      (cfg.tmux (keyArgs w.target token) >>= fun _ => pure PUnit.unit) :=
    fun token => Yields.seq (.tmux not_isRejection_exec cfg _) fun _ _ => .pure _
  have hkeys : Action.NeverRejects (w.sendKeys cfg [commandLine argv cfg.marker, "enter"]) :=
    Yields.seq (htoken _) fun _ _ => Yields.seq (htoken _) fun _ _ => .pure _
  exact Yields.seq hkeys fun _ _ => .pollOn not_isRejection_exec fun _ => .throw fun h => h

theorem neverRejects_captureLines : Action.NeverRejects (cfg.captureLines path) :=
  .pollOn not_isRejection_exec fun _ => .seq (.ofAnswer not_isRejection_exec _) fun _ _ => .pure _

theorem outcome_exitCode (line marker : String) :
    Outcome (fun e => ¬ e.IsRejection) (fun _ => True) (exitCode line marker) := by
  unfold exitCode
  dsimp only
  split
  · trivial
  · exact fun h => h

theorem outcome_readCapture (ls : List Bytes) (marker : String) :
    Outcome (fun e => ¬ e.IsRejection) (fun _ => True) (readCapture ls marker) := by
  unfold readCapture
  split
  · exact fun h => h
  · exact fun h => h
  split
  · exact fun h => h
  refine Outcome.bind (outcome_exitCode _ _) fun code _ => ?_
  split
  · exact fun h => h
  · trivial

/-- Either a failure other than that of a command whose exit code is rejected, or an output that is
all on the standard output. -/
abbrev Accepted : Except Error Exec.Output → Prop :=
  Outcome (fun e => ¬ e.IsRejection) fun o => o.stderr = []

theorem accepted_runInto : Yields Accepted (w.runInto cfg path argv true).run := by
  refine Yields.seq (.tmux not_isRejection_exec cfg _) fun _ _ =>
    Yields.seq (.attempt (neverRejects_typeAndAwait cfg w argv)) fun waited hwaited =>
    Yields.seq (.attempt (.tmux not_isRejection_exec cfg _)) fun stopped hstopped => ?_
  refine Yields.seq (.ofExcept hwaited) fun _ _ => Yields.seq (.ofExcept hstopped) fun _ _ =>
    Yields.seq (neverRejects_captureLines cfg path) fun ls _ =>
    Yields.seq (.ofExcept (outcome_readCapture ls _)) fun c _ => ?_
  rw [judge_true]
  exact Yields.ofExcept rfl

theorem accepted_run : Yields Accepted (w.run cfg argv true).run := by
  unfold run
  split
  · exact Yields.throw (not_isRejection_exec _)
  refine Yields.seq (neverRejects_create cfg w) fun _ _ =>
    Yields.seq (neverRejects_awaitPrompt cfg w) fun _ _ =>
    Yields.seq (.ofAnswer not_isRejection_exec _) fun path _ =>
    Yields.seq (.attempt (accepted_runInto cfg w path argv)) fun result hresult => ?_
  exact Yields.seq (.attempt (.ofAnswer not_isRejection_exec _)) fun _ _ => .ofExcept hresult

end Window

end PaneRunner.Tmux

namespace PaneRunner.Cli

variable (cfg : Tmux.Settings) (w : Tmux.Window) (argv : List String) (json : Bool)

/-! ## Reports -/

/-- What is said on the standard error of a command whose exit code is not accepted. -/
def rejection (w : Tmux.Window) (argv : List String) (code : Int32) : String :=
  if code = 0 then ""
  else Report.errorLine (Tmux.Error.failureText w.address (Shell.join argv) code)

theorem rejection_eq_empty_iff {code : Int32} : rejection w argv code = "" ↔ code = 0 := by
  unfold rejection
  split
  · simp [*]
  · simp [*, Report.errorLine, String.append_eq_empty_iff]

/-- What the two ways to run a command report, by what the command came to. Nothing, if it was broken
off. Its failure, if it failed. Otherwise what it wrote and its exit code, and the one that rejects
also a line of diagnostics if that is not zero. -/
inductive Reports : (command : Option (Except Tmux.Error Exec.Output)) →
    (accepting rejecting : Option (Except Failure Report)) → Prop where
  | cut : Reports none none none
  | failed (e : Tmux.Error) :
    Reports (some (.error e)) (some (.error (.tmux e))) (some (.error (.tmux e)))
  | ended (o : Exec.Output) {bytes : Bytes}
      (h : bytes = if json then Text.Utf8.encode (o.json ++ "\n") else o.stdout) :
    Reports (some (.ok o)) (some (.ok { stdout := bytes, stderr := "", code := o.code }))
      (some (.ok { stdout := bytes, stderr := rejection w argv o.code, code := o.code }))

theorem Reports.of_ok {o : Exec.Output} {accepting rejecting : Option (Except Failure Report)}
    (h : Reports w argv json (some (.ok o)) accepting rejecting) :
    accepting = some (.ok (.ofOutput json o)) ∧
      rejecting = some (.ok { Report.ofOutput json o with
        stderr := rejection w argv o.code }) := by
  cases h with
  | ended _ h => exact ⟨by rw [h, Report.ofOutput], by rw [h, Report.ofOutput]⟩

theorem runReport_reject {o : Exec.Output} (h : o.stderr = []) :
    runReport json (w.reject argv o) =
      .ok { Report.ofOutput json o with stderr := rejection w argv o.code } := by
  obtain ⟨stdout, stderr, code⟩ := o
  obtain rfl : stderr = [] := h
  unfold Tmux.Window.reject rejection
  split <;> rfl

theorem runReport_error {e : Tmux.Error} (h : ¬ e.IsRejection) :
    runReport json (.error e) = .error (.tmux e) := by
  cases e with
  | commandFailed => exact absurd trivial h
  | _ => rfl

theorem reports_of_accepted {r : Except Tmux.Error Exec.Output} (h : Tmux.Window.Accepted r) :
    Reports w argv json (some r) (some (runReport json r))
      (some (runReport json (r >>= w.reject argv))) := by
  cases r with
  | error e =>
    change Reports w argv json _ _ (some (runReport json (.error e)))
    rw [runReport_error json h]
    exact .failed e
  | ok o =>
    change Reports w argv json _ _ (some (runReport json (w.reject argv o)))
    rw [runReport_reject w argv json h]
    exact .ended o rfl

theorem runInWindow_false :
    (runInWindow cfg w argv false json).run =
      (w.run cfg argv true).run.bind fun r => .done (runReport json (r >>= w.reject argv)) := by
  change Plan.bind (w.run cfg argv false).run _ = _
  rw [Tmux.Window.run_false]
  change Plan.bind (Plan.bind _ _) _ = _
  rw [Plan.bind_assoc]
  congr 1
  funext r
  cases r <;> rfl

/-- Accepting every exit code changes the diagnostics only. With every executor, the run that accepts
and the run that rejects ask and are answered what the command in its window asks and is answered, and
they end in the same state at the same time. What they report is said by `Reports`: the line of
diagnostics, which is there if the run rejects and the command's exit code is not zero, is all that
they differ in. -/
theorem runInWindow_accepting_or_not {σ : Type} (ex : Executor Exec.Answer σ) (b : Bounds)
    (c : Timed σ) :
    let command := (w.run cfg argv true).run
    let accepting := (runInWindow cfg w argv true json).run
    let rejecting := (runInWindow cfg w argv false json).run
    (Plan.trace ex b accepting c = Plan.trace ex b command c ∧
      Plan.trace ex b rejecting c = Plan.trace ex b command c) ∧
    ((Plan.run ex b accepting c).2 = (Plan.run ex b command c).2 ∧
      (Plan.run ex b rejecting c).2 = (Plan.run ex b command c).2) ∧
    Reports w argv json (Plan.run ex b command c).1 (Plan.run ex b accepting c).1
      (Plan.run ex b rejecting c).1 ∧
    ∀ code, rejection w argv code = "" ↔ code = 0 := by
  intro command accepting rejecting
  have haccepting : accepting = command.bind fun r => .done (runReport json r) := rfl
  have hrejecting : rejecting = command.bind fun r => .done (runReport json (r >>= w.reject argv)) :=
    runInWindow_false cfg w argv json
  rw [haccepting, hrejecting, Plan.trace_map, Plan.trace_map, Plan.run_map, Plan.run_map]
  refine ⟨⟨rfl, rfl⟩, ⟨rfl, rfl⟩, ?_, fun _ => rejection_eq_empty_iff w argv⟩
  rcases hrun : (Plan.run ex b command c).1 with _ | r
  · exact .cut
  · exact reports_of_accepted w argv json
      (Plan.yields_run (Tmux.Window.accepted_run cfg w argv) ex b hrun)

/-- A command that ends with 3, on a screen that shows its end marker and a prompt all the time. -/
theorem runInWindow_accepting_or_not_three :
    let w : Tmux.Window := ⟨⟨"s", by decide⟩, "w", by decide⟩
    let cfg : Tmux.Settings := { marker := "M", promptReady := ⟨.zero, .attempts 1⟩ }
    let ex := Tmux.Window.still "M 3\n$ \n" "e\r\nx\r\n\r\nM 3\r\n$ " (.ok ())
    let b : Bounds := { checks := 1 }
    let c : Timed Unit := ⟨(), .zero⟩
    Plan.trace ex b (runInWindow cfg w ["e"] true false).run c =
        Plan.trace ex b (runInWindow cfg w ["e"] false false).run c ∧
      (Plan.run ex b (runInWindow cfg w ["e"] true false).run c).1 =
        some (.ok { stdout := [120, 10], code := 3 }) ∧
      (Plan.run ex b (runInWindow cfg w ["e"] false false).run c).1 =
        some (.ok { stdout := [120, 10], code := 3,
                    stderr := "error: `e` in tmux window 's:w' exited with 3\n" }) := by
  intro w cfg ex b c
  obtain ⟨⟨haccepting, hrejecting⟩, -, hreports, -⟩ :=
    runInWindow_accepting_or_not cfg w ["e"] false ex b c
  have hcommand : (Plan.run ex b (w.run cfg ["e"] true).run c).1 =
      some (.ok { stdout := [120, 10], code := 3 }) := by decide +kernel
  rw [hcommand] at hreports
  obtain ⟨haccepted, hrejected⟩ := hreports.of_ok
  refine ⟨haccepting.trans hrejecting.symm, haccepted, hrejected.trans ?_⟩
  decide +kernel

end PaneRunner.Cli
