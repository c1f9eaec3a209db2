import PaneRunner.Proofs.Parallel.Files
import PaneRunner.Proofs.Parallel.Stages
import PaneRunner.Proofs.Run.Steps
import PaneRunner.Proofs.Server.Reachable

/-
  One step of a run, stage by stage. On a server where nothing is on order and commands end at once a
  step makes of a view what `Job.next` says and changes nothing but the run's window and its own file
  (`Job.advances`).
-/
namespace PaneRunner.Simulation

open Text Plan Server Scene

/-- No failure is on order, nothing is under way, commands end at once, and the names are plain. -/
structure Server.Calm (server : Server) : Prop where
  failures : server.failures = []
  pending : server.pending = none
  delayed : server.delayed = none
  completion : server.completionDelay = 0
  capture : server.captureDelay = 0
  names : server.PlainNames

namespace Job

variable {cfg : Tmux.Settings} {job : Job} {server : Server} {x : Window} {own own' : Option String}
  {v v' : View} {sc' : Scene} {elapsed : Duration}

variable (cfg job) in
/-- The view is what the run sees in a scene; `own` is the run's own file. -/
structure Sees (own : Option String) (v : View) (sc : Scene) : Prop where
  pane : sc.pane = v.pane
  input : sc.input = job.typed cfg v
  pipe : sc.pipe = if v.stage.piped then own else v.pipe
  filed : own.isSome = v.stage.filed
  content : ∀ path ∈ own, sc.files.lookup path = some v.content

theorem sees_start (server : Server) (x : Window) :
    Sees cfg job none (job.start x) (Scene.of server x) := by
  unfold start first
  split
  · exact ⟨rfl, rfl, rfl, rfl, nofun⟩
  · exact ⟨rfl, rfl, rfl, rfl, nofun⟩

variable (cfg job server elapsed) in
/-- The next step takes the run from one view to another. -/
def Advances (own : Option String) (v v' : View) : Prop :=
  ∃ own' sc',
    Underway.step executor elapsed ⟨job.plan cfg (own.getD "") v.stage, v.made⟩ server =
        (⟨job.plan cfg (own'.getD "") v'.stage, v'.made⟩, sc'.on server job.window.target) ∧
      Sees cfg job own' v' sc' ∧ FileStep own server.files own' sc'.files ∧
      sc'.pending = none ∧ sc'.delayed = none

/-- A question is a step. -/
theorem Advances.of_asks
    (hasks : Asks executor (job.plan cfg (own.getD "") v.stage) server
      (job.plan cfg (own'.getD "") v'.stage) (sc'.on server job.window.target))
    (hmade : v'.made = 0) (hsees : Sees cfg job own' v' sc')
    (hfiles : FileStep own server.files own' sc'.files) (hpending : sc'.pending = none)
    (hdelayed : sc'.delayed = none) : Advances cfg job server elapsed own v v' := by
  refine ⟨own', sc', ?_, hsees, hfiles, hpending, hdelayed⟩
  rw [hasks.step, hmade]

theorem heard_eq_on (hx : server.window? job.window.target = some x) (argv : List String) :
    server.heard argv = ((Scene.of server x).heard argv).on server job.window.target :=
  congrArg (fun s => s.withCalls (argv :: server.calls)) (of_on hx).symm

/-- A call that goes well is a question. -/
theorem Calls.asks {name : String} {args : List String}
    {p p' : Exec.Procedure (Except Tmux.Error Exec.Output)} {stdout : String}
    (h : Calls cfg (name :: args) p p') (hfail : server.failures = [])
    (hx : server.window? job.window.target = some x)
    (hsub : (((Scene.of server x).heard (cfg.binary :: name :: args)).on server
        job.window.target).subcommand name args =
      (sc'.on server job.window.target).accept stdout) :
    Asks executor p server p' (sc'.on server job.window.target) := by
  obtain ⟨k, rfl, hk⟩ := h
  rw [← heard_eq_on hx] at hsub
  rw [← hk]
  exact (asks_call hfail hsub).bind k

variable (cfg job) in
/-- The line that is entered has an end marker. -/
theorem exists_split (input : String) :
    ∃ command marked, splitOnce? (input ++ job.line cfg) Tmux.markerCommand = some (command, marked) := by
  have hfound := isSome_cutAt? (input.toList ++ (PaneRunner.Shell.join job.argv).toList)
    Tmux.markerCommand.toList (Tmux.marked cfg.marker).toList
  obtain ⟨⟨l, r⟩, hcut⟩ := Option.isSome_iff_exists.1 hfound
  refine ⟨.ofList l, .ofList r, splitOnce?_of_cutAt? ?_⟩
  rw [line, Tmux.commandLine_eq]
  simpa using hcut

variable (cfg) in
/-- A look at the window changes nothing but the log. -/
theorem look_calm (hcalm : server.Calm) (hx : server.window? job.window.target = some x) :
    executor (.run (job.window.capture cfg)) server =
      { value := .ok { stdout := Utf8.encode (unlines x.pane) }
        state := ((Scene.of server x).heard (look cfg job.window)).on server job.window.target } := by
  have hlooked : (Scene.of server x).looked cfg job.window server.captureDelay =
      (Scene.of server x).heard (look cfg job.window) := by
    have hpending : ((Scene.of server x).heard (look cfg job.window)).pending = none := hcalm.pending
    rw [looked, Scene.advance, hpending]
  have hnone : (Scene.of server x).pending = none := hcalm.pending
  have hlook := executor_look cfg (Scene.of server x) hcalm.failures hx (by simp [hnone])
  rw [of_on hx, hlooked] at hlook
  exact hlook

variable (cfg elapsed) in
/-- A check of a poll of the window. -/
theorem step_pollScreen {β γ : Type} (hcalm : server.Calm)
    (hx : server.window? job.window.target = some x) {policy : Poll.Policy}
    (hallowed : policy.limit.forbids = false) (check : String → Option β)
    (gaveUp : Poll.Report → Tmux.Action β) (k : Except Tmux.Error β → Exec.Procedure γ) (made : Nat) :
    Underway.step executor elapsed ⟨(job.window.pollScreen cfg policy check gaveUp).run.bind k, made⟩
        server =
      (match check (unlines x.pane) with
        | some b => { plan := k (.ok b) }
        | none =>
          if policy.limit.spent (made + 1) elapsed then
            { plan := (gaveUp ⟨made + 1, elapsed⟩).run.bind k }
          else ⟨(job.window.pollScreen cfg policy check gaveUp).run.bind k, made + 1⟩,
        ((Scene.of server x).heard (look cfg job.window)).on server job.window.target) := by
  have hlook := look_calm cfg hcalm hx
  refine (step_pollOn hallowed (by rw [hlook])).trans ?_
  rw [hlook, Exec.Output.stdoutText, Utf8.decode_encode]
  rfl

/-- A read of a file changes nothing but the count of reads. -/
theorem read_calm (hcalm : server.Calm) (hx : server.window? job.window.target = some x)
    {path : String} {content : Bytes} (h : server.files.lookup path = some content) :
    executor (.contents path) server =
      { value := .ok content
        state := ({ Scene.of server x with fileReads := server.fileReads + 1 } : Scene).on server
          job.window.target } := by
  have hread : (Scene.of server x).read path =
      { Scene.of server x with fileReads := server.fileReads + 1 } := by
    have hdelayed : (Scene.of server x).delayed = none := hcalm.delayed
    rw [Scene.read]
    dsimp only
    rw [hdelayed]
    rfl
  have hlookup : ((Scene.of server x).read path).files.lookup path = some content := by
    rw [hread]
    exact h
  have hcontents : executor (.contents path) ((Scene.of server x).on server job.window.target) = _ :=
    executor_contents hlookup
  rw [of_on hx, hread] at hcontents
  exact hcontents

section Steps

variable (hcalm : server.Calm) (hx : server.window? job.window.target = some x)
  (hsees : Sees cfg job own v (Scene.of server x))
include hcalm hx hsees

/-! ## Calls -/

theorem advances_creating (hsession : PlainSession job.window.session.name)
    (hwindow : PlainWindow job.window.name) {c : Creation} (hidle : c.Idle server job.window)
    (hstage : v.stage = .creating c) :
    Advances cfg job server elapsed own v (job.next cfg server v) := by
  obtain ⟨stage, made, pane, input, pipe, content⟩ := v
  obtain rfl : stage = .creating c := hstage
  have hthere : (server.window? job.window.target).isSome = true := by
    rw [hx]
    rfl
  have hs := isSome_session?_of_window? hsession.no_colon hthere
  have hasked := Creation.asks cfg ⟨hcalm.failures, hcalm.names, hsession, hwindow⟩ c
    fun r hr => by rw [hr] at hidle; exact hidle
  have hasks := hasked.bind (ExceptT.bindCont fun _ =>
    job.window.awaitPrompt cfg >>= fun _ => job.window.runPiped cfg job.argv job.acceptAny)
  rw [← plan_ofCreation (own.getD "") (c.next cfg job.window server), hidle.effect hs,
    heard_eq_on hx] at hasks
  refine .of_asks hasks rfl ?_ (.keep _ _) hcalm.pending hcalm.delayed
  unfold next
  dsimp only
  rcases Stage.ofCreation_cases (c.next cfg job.window server) with h | h | ⟨r, h⟩
  all_goals
    rw [h]
    exact ⟨hsees.pane, hsees.input, hsees.pipe, hsees.filed, hsees.content⟩

theorem advances_opening (hstage : v.stage = .opening) :
    Advances cfg job server elapsed own v (job.next cfg server v) := by
  obtain ⟨stage, made, pane, input, pipe, content⟩ := v
  obtain rfl : stage = .opening := hstage
  obtain ⟨path, rfl⟩ := Option.isSome_iff_exists.1 hsees.filed
  let called := (Scene.of server x).heard
    (cfg.binary :: "pipe-pane" :: ["-t", job.window.target, Tmux.appendTo path])
  have hpiped := pipePane_on called hx (Tmux.appendTo path)
  rw [pipePath?_appendTo] at hpiped
  exact .of_asks (calls_opening.asks hcalm.failures hx hpiped) rfl
    ⟨hsees.pane, hsees.input, rfl, rfl, hsees.content⟩ (.keep _ _) hcalm.pending hcalm.delayed

theorem advances_closing (hstage : v.stage = .closing) :
    Advances cfg job server elapsed own v (job.next cfg server v) := by
  obtain ⟨stage, made, pane, input, pipe, content⟩ := v
  obtain rfl : stage = .closing := hstage
  let called := (Scene.of server x).heard (cfg.binary :: "pipe-pane" :: ["-t", job.window.target, ""])
  have hpiped := pipePane_on called hx ""
  rw [show pipePath? "" = none by decide] at hpiped
  exact .of_asks (calls_closing.asks hcalm.failures hx hpiped) rfl
    ⟨hsees.pane, hsees.input, rfl, hsees.filed, hsees.content⟩ (.keep _ _) hcalm.pending hcalm.delayed

theorem advances_typing (hstage : v.stage = .typing) :
    Advances cfg job server elapsed own v (job.next cfg server v) := by
  obtain ⟨stage, made, pane, input, pipe, content⟩ := v
  obtain rfl : stage = .typing := hstage
  have hkeys : Tmux.keyArgs job.window.target (job.line cfg) =
      "send-keys" :: "-t" :: job.window.target :: "-H" :: Tmux.hexBytes (job.line cfg) :=
    Tmux.keyArgs_of_text (Tmux.isKey_commandLine job.argv cfg.marker) job.window.target
  have hcalls := calls_typing cfg job (own.getD "")
  rw [hkeys] at hcalls
  let called := (Scene.of server x).heard
    (cfg.binary :: "send-keys" :: "-t" :: job.window.target :: "-H" :: Tmux.hexBytes (job.line cfg))
  have htype := sendKeys_on_text called hx (Tmux.hexBytes (job.line cfg))
  rw [Tmux.typedText_hexBytes] at htype
  refine .of_asks (hcalls.asks hcalm.failures hx htype) rfl ?_ (.keep _ _) hcalm.pending hcalm.delayed
  exact ⟨congrArg (extendLast · (job.line cfg)) hsees.pane,
    congrArg (· ++ job.line cfg) hsees.input, hsees.pipe, hsees.filed, hsees.content⟩

theorem advances_entering (hstage : v.stage = .entering) :
    Advances cfg job server elapsed own v (job.next cfg server v) := by
  obtain ⟨stage, made, pane, input, pipe, content⟩ := v
  obtain rfl : stage = .entering := hstage
  obtain ⟨path, rfl⟩ := Option.isSome_iff_exists.1 hsees.filed
  obtain ⟨command, marked, hsplit⟩ := exists_split cfg job input
  let called := (Scene.of server x).heard
    (cfg.binary :: "send-keys" :: ["-t", job.window.target, "enter"])
  have hinput : called.input = input ++ job.line cfg := hsees.input
  have henter := sendKeys_on_enter called hx (hinput ▸ hsplit)
  let p := server.outcome job.window.target (input ++ job.line cfg) command marked
  have hentered : job.entered server (input ++ job.line cfg) = p := by
    rw [entered, hsplit]
    rfl
  have hnow : ({ called with input := "" } : Scene).enter 0 p =
      { called with
        input := "", pane := called.pane ++ p.paneLines
        files := appended server.files path (Utf8.encode p.capture) } := by
    have hdone : p.pollsLeft = 0 := hcalm.completion
    have hpipe : called.pipe = some path := hsees.pipe
    rw [Scene.enter, if_pos hdone, Scene.complete]
    dsimp only
    rw [hpipe]
    rfl
  rw [hinput, hcalm.capture, hnow] at henter
  refine .of_asks (calls_entering.asks hcalm.failures hx henter) rfl ?_ (.write path _ _)
    hcalm.pending hcalm.delayed
  rw [next]
  dsimp only
  rw [hentered]
  refine ⟨congrArg (· ++ p.paneLines) hsees.pane, rfl, hsees.pipe, rfl, fun q hq => ?_⟩
  cases hq
  have hcontent : server.files.lookup path = some content := hsees.content path rfl
  change (appended server.files path _).lookup path = _
  rw [lookup_appended, hcontent]
  rfl

/-! ## Looks -/

theorem advances_prompting (hcfg : cfg.Untimed) (hstage : v.stage = .prompting) :
    Advances cfg job server elapsed own v (job.next cfg server v) := by
  obtain ⟨stage, made, pane, input, pipe, content⟩ := v
  obtain rfl : stage = .prompting := hstage
  obtain rfl : x.pane = pane := hsees.pane
  let sc := (Scene.of server x).heard (look cfg job.window)
  have hstep := step_pollScreen cfg elapsed hcalm hx hcfg.prompt.1
    (fun raw =>
      if Tmux.isPrompt (Tmux.fromBottom (Tmux.shownLines raw) 0) cfg.suffixes then some () else none)
    (fun rep => throw (.promptNotReady job.window.address rep.attempts))
    (ExceptT.bindCont fun _ => job.window.runPiped cfg job.argv job.acceptAny) made
  unfold next
  dsimp only
  by_cases hprompt :
      Tmux.isPrompt (Tmux.fromBottom (Tmux.shownLines (unlines x.pane)) 0) cfg.suffixes = true
  · rw [if_pos hprompt] at hstep ⊢
    exact ⟨own, sc, hstep, ⟨rfl, hsees.input, hsees.pipe, hsees.filed, hsees.content⟩, .keep _ _,
      hcalm.pending, hcalm.delayed⟩
  · rw [if_neg hprompt] at hstep ⊢
    dsimp only at hstep
    rw [hcfg.prompt.2] at hstep
    by_cases hspent : cfg.promptReady.limit.spent (made + 1) .zero = true
    · rw [if_pos hspent] at hstep ⊢
      exact ⟨own, sc, hstep, ⟨rfl, hsees.input, hsees.pipe, hsees.filed, hsees.content⟩, .keep _ _,
        hcalm.pending, hcalm.delayed⟩
    · rw [if_neg hspent] at hstep ⊢
      exact ⟨own, sc, hstep, ⟨rfl, hsees.input, hsees.pipe, hsees.filed, hsees.content⟩, .keep _ _,
        hcalm.pending, hcalm.delayed⟩

theorem advances_marking (hcfg : cfg.Untimed) (hstage : v.stage = .marking) :
    Advances cfg job server elapsed own v (job.next cfg server v) := by
  obtain ⟨stage, made, pane, input, pipe, content⟩ := v
  obtain rfl : stage = .marking := hstage
  obtain rfl : x.pane = pane := hsees.pane
  let sc := (Scene.of server x).heard (look cfg job.window)
  have hallows := allows_commandCompletion hcfg.command (made + 1)
  have hstep := step_pollScreen cfg elapsed hcalm hx hallows.1
    (fun raw => if Tmux.showsMarker (Tmux.shownLines raw) cfg.marker then some () else none)
    (fun rep => throw (.timeout job.window.address ("^" ++ Regex.escape cfg.marker) rep.elapsed))
    (restWaited cfg job (own.getD "")) made
  unfold next
  dsimp only
  by_cases hmarker : Tmux.showsMarker (Tmux.shownLines (unlines x.pane)) cfg.marker = true
  · rw [if_pos hmarker] at hstep ⊢
    exact ⟨own, sc, hstep, ⟨rfl, hsees.input, hsees.pipe, hsees.filed, hsees.content⟩, .keep _ _,
      hcalm.pending, hcalm.delayed⟩
  · rw [if_neg hmarker] at hstep ⊢
    dsimp only at hstep
    rw [hallows.2 made (Nat.lt_succ_self made), if_neg Bool.false_ne_true] at hstep
    exact ⟨own, sc, hstep, ⟨rfl, hsees.input, hsees.pipe, hsees.filed, hsees.content⟩, .keep _ _,
      hcalm.pending, hcalm.delayed⟩

/-! ## Files -/

theorem advances_filing (hnumbered : server.Numbered) (hstage : v.stage = .filing) :
    Advances cfg job server elapsed own v (job.next cfg server v) := by
  obtain ⟨stage, made, pane, input, pipe, content⟩ := v
  obtain rfl : stage = .filing := hstage
  obtain rfl : own = none := Option.not_isSome_iff_eq_none.1 (Bool.eq_false_iff.1 hsees.filed)
  let path := filePath (server.filesMade + 1)
  let sc : Scene := { Scene.of server x with
    files := server.files ++ [(path, [])], filesMade := server.filesMade + 1 }
  have hmade : (executor .newFile server).state = sc.on server job.window.target := by
    conv_lhs => rw [← of_on hx]
    rfl
  have hasks : Asks executor (job.plan cfg ((none : Option String).getD "") .filing) server
      (job.plan cfg ((some path).getD "") .opening) (sc.on server job.window.target) := by
    refine ⟨.newFile, _, rfl, ?_, hmade⟩
    change ((job.window.runInto cfg path job.argv job.acceptAny).attempt >>= _).run = _
    rw [run_attempt_bind]
    exact congrArg (job.window.runInto cfg path job.argv job.acceptAny).run.bind
      (funext fun r => run_attempt_bind _ _)
  refine .of_asks hasks rfl ?_ (.make hnumbered.path_fresh) hcalm.pending hcalm.delayed
  refine ⟨hsees.pane, hsees.input, hsees.pipe, rfl, fun q hq => ?_⟩
  cases hq
  exact lookup_last hnumbered.path_fresh []

theorem advances_removing {r : Except Tmux.Error Exec.Output} (hstage : v.stage = .removing r) :
    Advances cfg job server elapsed own v (job.next cfg server v) := by
  obtain ⟨stage, made, pane, input, pipe, content⟩ := v
  obtain rfl : stage = .removing r := hstage
  obtain ⟨path, rfl⟩ := Option.isSome_iff_exists.1 hsees.filed
  let sc : Scene := { Scene.of server x with files := server.files.filter fun f => f.1 != path }
  have hasks : Asks executor (job.plan cfg ((some path).getD "") (.removing r)) server
      (job.plan cfg ((none : Option String).getD "") (.returned r))
      (sc.on server job.window.target) := by
    refine ⟨.removeFile path, _, rfl, rfl, ?_⟩
    conv_lhs => rw [← of_on hx]
    rfl
  exact .of_asks hasks rfl ⟨hsees.pane, hsees.input, hsees.pipe, rfl, nofun⟩ (.remove path _)
    hcalm.pending hcalm.delayed

theorem advances_reading (hcfg : cfg.Untimed) (hstage : v.stage = .reading) :
    Advances cfg job server elapsed own v (job.next cfg server v) := by
  obtain ⟨stage, made, pane, input, pipe, content⟩ := v
  obtain rfl : stage = .reading := hstage
  obtain ⟨path, rfl⟩ := Option.isSome_iff_exists.1 hsees.filed
  let sc : Scene := { Scene.of server x with fileReads := server.fileReads + 1 }
  have hread := read_calm hcalm hx (hsees.content path rfl)
  have hstep : Underway.step executor elapsed ⟨job.plan cfg path .reading, made⟩ server = _ :=
    step_pollOn hcfg.flush.1 (a := content) (by rw [hread])
  rw [hread] at hstep
  unfold next
  dsimp only at hstep ⊢
  by_cases hmarker : Tmux.holdsMarker (Exec.fileLines content) cfg.marker = true
  · rw [if_pos hmarker] at hstep ⊢
    exact ⟨some path, sc, hstep, ⟨hsees.pane, hsees.input, hsees.pipe, rfl, hsees.content⟩,
      .keep _ _, hcalm.pending, hcalm.delayed⟩
  · rw [if_neg hmarker] at hstep ⊢
    dsimp only at hstep
    rw [hcfg.flush.2] at hstep
    by_cases hspent : cfg.captureFlush.limit.spent (made + 1) .zero = true
    · rw [if_pos hspent] at hstep ⊢
      exact ⟨some path, sc, hstep, ⟨hsees.pane, hsees.input, hsees.pipe, rfl, hsees.content⟩,
        .keep _ _, hcalm.pending, hcalm.delayed⟩
    · rw [if_neg hspent] at hstep ⊢
      exact ⟨some path, sc, hstep, ⟨hsees.pane, hsees.input, hsees.pipe, rfl, hsees.content⟩,
        .keep _ _, hcalm.pending, hcalm.delayed⟩

theorem advances_rereading (hstage : v.stage = .rereading) :
    Advances cfg job server elapsed own v (job.next cfg server v) := by
  obtain ⟨stage, made, pane, input, pipe, content⟩ := v
  obtain rfl : stage = .rereading := hstage
  obtain ⟨path, rfl⟩ := Option.isSome_iff_exists.1 hsees.filed
  let sc : Scene := { Scene.of server x with fileReads := server.fileReads + 1 }
  have hread := read_calm hcalm hx (hsees.content path rfl)
  have hasks : Asks executor (job.plan cfg ((some path).getD "") .rereading) server
      (job.plan cfg ((some path).getD "") (.removing (job.judged cfg (Exec.fileLines content))))
      (sc.on server job.window.target) := by
    refine ⟨.contents path, _, rfl, ?_, ?_⟩
    · rw [hread]
      rfl
    · rw [hread]
  exact .of_asks hasks rfl ⟨hsees.pane, hsees.input, hsees.pipe, rfl, hsees.content⟩ (.keep _ _)
    hcalm.pending hcalm.delayed

theorem advances_returned {r : Except Tmux.Error Exec.Output} (hstage : v.stage = .returned r) :
    Advances cfg job server elapsed own v (job.next cfg server v) := by
  obtain ⟨stage, made, pane, input, pipe, content⟩ := v
  obtain rfl : stage = .returned r := hstage
  refine ⟨own, Scene.of server x, ?_, hsees, .keep _ _, hcalm.pending, hcalm.delayed⟩
  rw [of_on hx]
  rfl

/-! ## All stages -/

/-- A step of a run whose window is there, at whatever stage. -/
theorem advances (hcfg : cfg.Untimed) (hnumbered : server.Numbered)
    (hsession : PlainSession job.window.session.name) (hwindow : PlainWindow job.window.name)
    (hidle : ∀ c, v.stage = .creating c → c.Idle server job.window) :
    Advances cfg job server elapsed own v (job.next cfg server v) := by
  cases hstage : v.stage with
  | creating c => exact advances_creating hcalm hx hsees hsession hwindow (hidle c hstage) hstage
  | prompting => exact advances_prompting hcalm hx hsees hcfg hstage
  | filing => exact advances_filing hcalm hx hsees hnumbered hstage
  | opening => exact advances_opening hcalm hx hsees hstage
  | typing => exact advances_typing hcalm hx hsees hstage
  | entering => exact advances_entering hcalm hx hsees hstage
  | marking => exact advances_marking hcalm hx hsees hcfg hstage
  | closing => exact advances_closing hcalm hx hsees hstage
  | reading => exact advances_reading hcalm hx hsees hcfg hstage
  | rereading => exact advances_rereading hcalm hx hsees hstage
  | removing r => exact advances_removing hcalm hx hsees hstage
  | returned r => exact advances_returned hcalm hx hsees hstage

end Steps

end Job

end PaneRunner.Simulation
