import PaneRunner.Config.Basic
import PaneRunner.Proofs.Run.Command
import PaneRunner.Proofs.Server.Creation
import PaneRunner.Proofs.Server.Reachable

/-
  A whole run. Around the command itself stand the making of the window, the wait for a prompt, and
  the capture file, which is gone in the end (`ends_run_of_runInto`). `ends_run`: the output and the
  exit code come back, and of the run only the pane, the number of the next file and the log are
  left.
-/
namespace PaneRunner.Simulation

open Text Plan Server

/-- The window after a run. -/
def Window.after (x : Window) (argv : List String) (marker : String) (code : Int32) : Window :=
  { x with pane := paneAfter x.pane argv marker code, input := "", pipe := none }

namespace Server

/-- Everything is in place for a run in a window. -/
structure Ready (server : Server) (w : Tmux.Window) : Prop where
  quiet : server.Quiet
  plain : server.Plain
  numbered : server.Numbered
  session : PlainSession w.session.name
  idle : ∀ x, server.window? w.target = some x → Idle x.pane ∧ x.input = ""

/-- The server after a run, but for what it has counted and logged. -/
def after (server : Server) (w : Tmux.Window) (argv : List String) (marker : String) : Server :=
  { (server.withWindow w).onWindow w.target fun x => x.after argv marker server.exitCode with
    filesMade := server.filesMade + 1 }

variable {cfg : Tmux.Settings} {w : Tmux.Window} {server : Server} (log : List Server)
  {argv : List String} {flushes : Nat}

/-- Making a window changes neither what is arranged nor what is under way. -/
theorem exists_withWindow (server : Server) (w : Tmux.Window) :
    ∃ running sessions, server.withWindow w = { server with running, sessions } := by
  unfold withWindow
  split
  · exact ⟨_, _, rfl⟩
  · split
    · exact ⟨_, _, rfl⟩
    · exact ⟨_, _, rfl⟩

/-- A window that is not there yet shows a prompt and nothing else. -/
theorem window_of_withWindow {P : Window → Prop} {x : Window} (hs : ':' ∉ w.session.name.toList)
    (hx : (server.withWindow w).window? w.target = some x) (hnew : P { name := w.name })
    (hold : ∀ x, server.window? w.target = some x → P x) : P x := by
  rw [window?_withWindow hs, Option.some.injEq] at hx
  subst hx
  cases h : server.window? w.target with
  | none => exact hnew
  | some y => exact hold y h

/-- Once a run has found its window, shown a prompt and a new file, it is what the command comes to,
and then the file is removed. -/
theorem ends_run_of_runInto {x : Window} (hready : server.Ready w) (hcfg : Workable cfg flushes)
    (hne : argv ≠ []) (hx : (server.withWindow w).window? w.target = some x)
    (hidle : Idle x.pane) (acceptAny : Bool) :
    ∃ calls, ∀ (sc : Scene) {path : String} {r : Except Tmux.Error Exec.Output} {content : Bytes}
      {log' : List Server}, path = filePath (server.filesMade + 1) →
      Ends (watching cfg w) (w.runInto cfg path argv acceptAny).run
        (({ Scene.of (server.withWindow w) x with
            files := server.files ++ [(path, [])]
            filesMade := server.filesMade + 1
            calls } : Scene).on (server.withWindow w) w.target, log) r
        (({ sc with files := server.files ++ [(path, content)] } : Scene).on
          (server.withWindow w) w.target, log') →
      Ends (watching cfg w) (w.run cfg argv acceptAny).run (server, log) r
        (({ sc with files := server.files } : Scene).on (server.withWindow w) w.target, log') := by
  obtain ⟨calls₁, hcreate⟩ := ends_create cfg log hready.quiet.failures hready.plain hready.session
  obtain ⟨running, sessions, hmade⟩ := exists_withWindow server w
  rw [hmade] at hcreate hx ⊢
  let base : Server := { server with running, sessions }
  have hon : ({ Scene.of base x with calls := calls₁ } : Scene).on base w.target =
      base.withCalls calls₁ :=
    congrArg (fun s => s.withCalls calls₁) (Scene.of_on hx)
  change Ends _ _ _ _ (base.withCalls calls₁, log) at hcreate
  rw [← hon] at hcreate
  have hfail : base.failures = [] := hready.quiet.failures
  obtain ⟨calls₂, hprompt⟩ := Scene.ends_awaitPrompt cfg { Scene.of base x with calls := calls₁ } log
    hfail hx hready.quiet.pending hidle.showsLast hcfg.prompt hcfg.ready
  have hnew := Scene.ends_newFile cfg w base { Scene.of base x with calls := calls₂ } log
  refine ⟨calls₂, fun sc path r content log' hpath hrun => ?_⟩
  subst hpath
  have hremove := Scene.ends_removeFile cfg w base
    { sc with files := server.files ++ [(filePath (server.filesMade + 1), content)] } log'
    (filePath (server.filesMade + 1))
  dsimp only at hremove
  rw [Scene.filter_last hready.numbered.path_fresh content] at hremove
  rw [Tmux.Window.run, if_neg (by simpa using hne)]
  exact Ends.seq hcreate (Ends.seq hprompt (Ends.seq hnew (Ends.seq (Ends.attempt hrun)
    (Ends.seq (Ends.attempt hremove) (Ends.ofExcept _ _)))))

/-- A run of a command in a window that is free for it. -/
theorem ends_run (hready : server.Ready w) (hcfg : Workable cfg flushes) (hne : argv ≠ [])
    (hargv : ∀ a ∈ argv, '\n' ∉ a.toList)
    (hsettled : ∀ x, server.window? w.target = some x →
      Settled server.completionDelay x.pane cfg.marker)
    (hdelay : server.captureDelay ≤ flushes + 1) (acceptAny : Bool) :
    ∃ closed calls fileReads, Ends (watching cfg w) (w.run cfg argv acceptAny).run (server, log)
      (w.judge argv acceptAny ⟨Utf8.encode (printed argv), server.exitCode⟩)
      ({ server.after w argv cfg.marker with calls, fileReads }, closed :: log) ∧
      closed.pending = none ∧
      ∃ pane, (closed.window? w.target).map Window.pane =
        some (paneAfter pane argv cfg.marker server.exitCode) := by
  obtain ⟨x, hx⟩ : ∃ x, (server.withWindow w).window? w.target = some x :=
    ⟨_, window?_withWindow hready.session.no_colon⟩
  obtain ⟨hidle, hinput⟩ : Idle x.pane ∧ x.input = "" :=
    window_of_withWindow (P := fun x => Idle x.pane ∧ x.input = "") hready.session.no_colon hx
      ⟨idle_prompt, rfl⟩ hready.idle
  have hsettled' : Settled server.completionDelay x.pane cfg.marker :=
    window_of_withWindow (P := fun x => Settled server.completionDelay x.pane cfg.marker)
      hready.session.no_colon hx (Or.inr fun l hl => by cases hl) hsettled
  obtain ⟨calls₁, hwhole⟩ := ends_run_of_runInto log hready hcfg hne hx hidle acceptAny
  have hwindow : ∀ y, (server.withWindow w).window? w.target = some y →
      y.after argv cfg.marker server.exitCode =
        { y with
          pane := paneAfter x.pane argv cfg.marker server.exitCode, input := "", pipe := none } := by
    intro y hy
    cases hx.symm.trans hy
    rfl
  rw [after, onWindow_congr hwindow]
  obtain ⟨running, sessions, hmade⟩ := exists_withWindow server w
  rw [hmade] at hwhole hx ⊢
  let base : Server := { server with running, sessions }
  have hquiet : base.Quiet :=
    ⟨hready.quiet.pending, hready.quiet.delayed, hready.quiet.captureOverride,
      hready.quiet.failures⟩
  let path := filePath (server.filesMade + 1)
  let sc : Scene := { Scene.of base x with
    files := server.files ++ [(path, [])], filesMade := server.filesMade + 1, calls := calls₁ }
  obtain ⟨closed, calls, fileReads, content, hrun, hpending, hpane⟩ :=
    Scene.ends_runInto sc log hquiet hcfg hargv hx hidle hinput hquiet.pending
      hquiet.delayed hsettled' hready.numbered.path_fresh rfl hdelay acceptAny
  let left : Scene := { sc.after argv cfg.marker server.exitCode with
    files := server.files, delayed := none, fileReads, calls }
  have hleft : left.on base w.target = _ :=
    Scene.on_eq hquiet.pending.symm rfl hquiet.delayed.symm
  have hend := hwhole left rfl hrun
  exact ⟨closed, calls, fileReads, hleft ▸ hend, hpending, x.pane, hpane⟩

end Server

/-! ## A run on a server that is quiet -/

theorem prompt_default : Tmux.isPrompt "$ " Tmux.defaultSuffixes = true := by decide

/-- The default settings with another marker. -/
theorem workable_default {marker : String} (hm : Tmux.IsMarker marker) (hdollar : marker ≠ "$") :
    Workable { marker } 20 where
  prompt := prompt_default
  ready := Poll.Limit.allows_attempts (by decide)
  marker := hm
  not_dollar := hdollar
  untimed := rfl
  flush := rfl

/-- On a quiet server a command ends, in a new window or one that shows a prompt and no marker,
however long it takes and however late its output is written. Its output comes back with its exit
code, as an error if the code is not zero and that matters, and of the run only the pane, the number
of the next file and the log are left. -/
theorem run_output {server : Server} (hreach : Reachable server) (hquiet : server.Quiet)
    (hplain : server.Plain) {w : Tmux.Window} (hsession : PlainSession w.session.name)
    {marker : String} (hvalid : Config.validate { run := { marker } } = .ok ())
    (hdollar : marker ≠ "$")
    (hfree : ∀ x, server.window? w.target = some x →
      Idle x.pane ∧ x.input = "" ∧ ∀ l ∈ x.pane, ¬ marker.toList <+: l.toList)
    (hdelay : server.captureDelay ≤ 20 + 1) {argv : List String} (hne : argv ≠ [])
    (hargv : ∀ a ∈ argv, '\n' ∉ a.toList) (acceptAny : Bool) :
    ∃ calls fileReads, Ends Server.executor (w.run { marker } argv acceptAny).run server
      (if server.exitCode = 0 ∨ acceptAny = true then
        .ok { stdout := Utf8.encode (printed argv), code := server.exitCode }
      else
        .error (.commandFailed w.address (PaneRunner.Shell.join argv) server.exitCode
          (Utf8.encode (printed argv))))
      { server.after w argv marker with calls, fileReads } := by
  have hready : server.Ready w :=
    { quiet := hquiet
      plain := hplain
      numbered := hreach.numbered
      session := hsession
      idle := fun x hx => ⟨(hfree x hx).1, (hfree x hx).2.1⟩ }
  have hsettled : ∀ x, server.window? w.target = some x →
      Settled server.completionDelay x.pane marker :=
    fun x hx => Or.inr fun l hl =>
      (hfree x hx).2.2 l (List.dropLast_subset _ (List.mem_of_getLast? hl))
  have hcfg := workable_default (Config.isMarker_of_validate hvalid) hdollar
  obtain ⟨closed, calls, fileReads, hrun, -⟩ := Server.ends_run [] hready hcfg hne hargv hsettled
    hdelay acceptAny
  refine ⟨calls, fileReads, ?_⟩
  have hverdict : w.judge argv acceptAny ⟨Utf8.encode (printed argv), server.exitCode⟩ =
      if server.exitCode = 0 ∨ acceptAny = true then
        .ok { stdout := Utf8.encode (printed argv), code := server.exitCode }
      else
        .error (.commandFailed w.address (PaneRunner.Shell.join argv) server.exitCode
          (Utf8.encode (printed argv))) := by
    rw [Tmux.Window.judge]
    by_cases hcode : server.exitCode = 0
    · simp [hcode]
    · cases acceptAny <;> simp [hcode]
  rw [← hverdict]
  exact Ends.of_watched _ hrun

/-- A window of plain names. -/
def workWindow : Tmux.Window where
  session := { name := "main", named := by decide }
  name := "work"
  named := by decide

/-- A server with a window that was in use, on which commands fail, and late. -/
def usedServer : Server :=
  [Arrangement.session "main" ["work"], .pane "main" "work" ["$ ls", "notes", "$ "], .exitCode 3,
    .completionDelay 2, .captureDelay 21].foldl Arrangement.apply {}

theorem run_output_used :
    ∃ calls fileReads, Ends Server.executor
      (workWindow.run { marker := "END" } ["echo", "it's"] false).run usedServer
      (.error (.commandFailed "main:work" "echo 'it'\\''s'" 3 (Utf8.encode "it's\n")))
      { usedServer.after workWindow ["echo", "it's"] "END" with calls, fileReads } := by
  have hx : usedServer.window? workWindow.target =
      some { name := "work", pane := ["$ ls", "notes", "$ "] } := by decide
  have hfree : ∀ x, usedServer.window? workWindow.target = some x →
      Idle x.pane ∧ x.input = "" ∧ ∀ l ∈ x.pane, ¬ "END".toList <+: l.toList := by
    intro x h
    cases hx.symm.trans h
    exact ⟨⟨by decide, by decide⟩, by decide, by decide⟩
  have hreach : Reachable usedServer := Reachable.fresh.foldl_apply _
  have hquiet : usedServer.Quiet := ⟨rfl, rfl, rfl, rfl⟩
  have hplain : usedServer.Plain := ⟨by decide, by decide, by decide⟩
  have hsession : PlainSession workWindow.session.name := by decide
  have hvalid : Config.validate { run := { marker := "END" } } = .ok () := by decide
  have hargv : ∀ a ∈ ["echo", "it's"], '\n' ∉ a.toList := by decide
  have h := run_output hreach hquiet hplain hsession hvalid (by decide) hfree (by decide) (by decide)
    hargv false
  have hprinted : printed ["echo", "it's"] = "it's\n" := by
    rw [printed, Shell.run_eq]
    decide
  rw [hprinted] at h
  exact h

end PaneRunner.Simulation
