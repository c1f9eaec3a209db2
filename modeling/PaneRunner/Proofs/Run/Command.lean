import PaneRunner.Proofs.Run.Flush
import PaneRunner.Proofs.Run.Outcome

/-
  A command in a window that is there. It is typed and waited for (`ends_typeAndAwait`): unless a
  marker right above the prompt is taken for its end, the wait goes on until it has ended.
  `ends_runInto` follows it from the opening of the pipe to the verdict on the capture.
-/
namespace PaneRunner.Simulation

open Text Plan Server

/-- Nothing is under way, and no failure is on order. -/
structure Server.Quiet (server : Server) : Prop where
  pending : server.pending = none
  delayed : server.delayed = none
  captureOverride : server.captureOverride = none
  failures : server.failures = []

/-- A pane that shows a prompt. -/
structure Idle (pane : List String) : Prop where
  prompt : pane.getLast? = some "$ "
  no_newline : ∀ l ∈ pane, '\n' ∉ l.toList

theorem idle_prompt : Idle ["$ "] := ⟨rfl, by decide⟩

theorem Idle.showsLast {pane : List String} (h : Idle pane) : Tmux.ShowsLast pane "$ " :=
  ⟨h.prompt, h.no_newline, by decide, by decide⟩

/-- Settings that a command runs with: they know the prompt, have a proper marker that no prompt
starts with, wait for the end of a command for ever, and read a capture file `flushes` times. -/
structure Workable (cfg : Tmux.Settings) (flushes : Nat) : Prop where
  prompt : Tmux.isPrompt "$ " cfg.suffixes = true
  ready : cfg.promptReady.limit.Allows 0
  marker : Tmux.IsMarker cfg.marker
  not_dollar : cfg.marker ≠ "$"
  untimed : cfg.commandTimeout = none
  flush : cfg.captureFlush.limit = .attempts flushes

/-- What stands in the pane is not taken for the end of a command: the command ends with the first
look, or there is no marker right above the prompt. -/
def Settled (looks : Nat) (pane : List String) (marker : String) : Prop :=
  looks ≤ 1 ∨ ∀ l, pane.dropLast.getLast? = some l → ¬ marker.toList <+: l.toList

/-- The pane after a command has run. -/
def paneAfter (pane : List String) (argv : List String) (marker : String) (code : Int32) :
    List String :=
  pane.dropLast ++ ["$ " ++ Tmux.commandLine argv marker] ++ shown argv marker code

namespace Scene

variable {cfg : Tmux.Settings} {w : Tmux.Window} {server : Server} {x : Window} (sc : Scene)
  (log : List Server) {path : String} {files : List (String × Bytes)} {argv : List String}
  {flushes : Nat}

theorem extendLast_of_getLast? {pane : List String} {last : String}
    (h : pane.getLast? = some last) (more : String) :
    extendLast pane more = pane.dropLast ++ [last ++ more] := by
  rw [extendLast, h]

/-- The scene once the command line has been entered. -/
def typed (sc : Scene) (argv : List String) (marker : String) : Scene :=
  { sc with pane := sc.pane.dropLast ++ ["$ " ++ Tmux.commandLine argv marker], input := "" }

/-- The command is typed and entered. -/
theorem ends_enter (hquiet : server.Quiet) (hx : server.window? w.target = some x)
    (hidle : Idle sc.pane) (hinput : sc.input = "") (argv : List String) :
    ∃ calls, Ends (watching cfg w)
      (w.sendKeys cfg [Tmux.commandLine argv cfg.marker, "enter"]).run (sc.on server w.target, log)
      (.ok ())
      ((({ sc.typed argv cfg.marker with calls } : Scene).enter server.captureDelay
        (underway server w.target argv cfg.marker)).on server w.target, log) := by
  obtain ⟨calls, hkeys⟩ := ends_sendKeys cfg sc log hquiet.failures hx hinput argv
  rw [extendLast_of_getLast? hidle.prompt, outcome_commandLine hquiet.captureOverride] at hkeys
  exact ⟨calls, hkeys⟩

/-- The command is typed and entered, and ends. -/
theorem ends_typeAndAwait (hquiet : server.Quiet) (hcfg : Workable cfg flushes)
    (hargv : ∀ a ∈ argv, '\n' ∉ a.toList) (hx : server.window? w.target = some x)
    (hidle : Idle sc.pane) (hinput : sc.input = "") (hpending : sc.pending = none)
    (hsettled : Settled server.completionDelay sc.pane cfg.marker) :
    ∃ calls, Ends (watching cfg w) (w.typeAndAwait cfg argv).run (sc.on server w.target, log)
      (.ok ())
      (({ (sc.typed argv cfg.marker).complete server.captureDelay
          (underway server w.target argv cfg.marker) with
          pending := none, calls } : Scene).on server w.target, log) := by
  obtain ⟨calls, hkeys⟩ := ends_enter sc log hquiet hx hidle hinput argv
  let p := underway server w.target argv cfg.marker
  have habove : ∀ l ∈ sc.pane.dropLast, '\n' ∉ l.toList :=
    fun l hl => hidle.no_newline l (List.dropLast_subset _ hl)
  have hmarked : Marked ((sc.typed argv cfg.marker).pane ++ p.paneLines) cfg.marker :=
    marked_shown _ hcfg.marker argv (newline_not_mem_typed hcfg.marker hargv habove)
  by_cases hnow : p.pollsLeft = 0
  · have hentered : ({ sc.typed argv cfg.marker with calls } : Scene).enter server.captureDelay p =
        { (sc.typed argv cfg.marker).complete server.captureDelay p with
          pending := none, calls } := by
      rw [enter, if_pos hnow, ← complete_with _ _ p p.pollsLeft, ← hpending]
      rfl
    refine ⟨look cfg w :: calls, Ends.seq hkeys ?_⟩
    rw [hentered]
    refine ends_awaitMarker_now cfg _ log hquiet.failures hx (by simp) hcfg.untimed ?_
    change Marked ((sc.typed argv cfg.marker).complete server.captureDelay p).pane cfg.marker
    rwa [pane_complete]
  · have hentered : ({ sc.typed argv cfg.marker with calls } : Scene).enter server.captureDelay p =
        { sc.typed argv cfg.marker with pending := some p, calls } := if_neg hnow
    have hhidden : 1 < p.pollsLeft → ¬ Marked (sc.typed argv cfg.marker).pane cfg.marker := by
      intro hlate h
      obtain ⟨l, hl, hmark⟩ := (marked_typed_iff hcfg.marker hcfg.not_dollar hargv habove).1 h
      exact hsettled.elim (Nat.not_le.2 hlate) fun h => h l hl hmark
    obtain ⟨calls', hwait⟩ := ends_awaitMarker cfg
      { sc.typed argv cfg.marker with pending := some p, calls } log hquiet.failures hx rfl rfl
      (Nat.pos_of_ne_zero hnow) hcfg.untimed hhidden hmarked
    refine ⟨calls', Ends.seq hkeys ?_⟩
    have hended := complete_with (sc.typed argv cfg.marker) server.captureDelay p p.pollsLeft
      (some p) calls
    rw [hended] at hwait
    rw [hentered]
    exact hwait

/-- The scene after a run. -/
def after (sc : Scene) (argv : List String) (marker : String) (code : Int32) : Scene :=
  { sc with pane := paneAfter sc.pane argv marker code, input := "", pipe := none, pending := none }

/-- The command runs into its capture file. When the pipe is closed, the command has ended, and the
verdict is passed on its own output and code. -/
theorem ends_runInto (hquiet : server.Quiet) (hcfg : Workable cfg flushes)
    (hargv : ∀ a ∈ argv, '\n' ∉ a.toList) (hx : server.window? w.target = some x)
    (hidle : Idle sc.pane) (hinput : sc.input = "") (hpending : sc.pending = none)
    (hdelayed : sc.delayed = none)
    (hsettled : Settled server.completionDelay sc.pane cfg.marker)
    (hfresh : ∀ f ∈ files, f.1 ≠ path) (hfiles : sc.files = files ++ [(path, [])])
    (hdelay : server.captureDelay ≤ flushes + 1) (acceptAny : Bool) :
    ∃ closed calls reads content, Ends (watching cfg w)
      (w.runInto cfg path argv acceptAny).run (sc.on server w.target, log)
      (w.judge argv acceptAny ⟨Utf8.encode (printed argv), server.exitCode⟩)
      (({ sc.after argv cfg.marker server.exitCode with
          files := files ++ [(path, content)], delayed := none, fileReads := reads, calls } :
        Scene).on server w.target, closed :: log) ∧
      closed.pending = none ∧
      (closed.window? w.target).map Window.pane =
        some (paneAfter sc.pane argv cfg.marker server.exitCode) := by
  obtain ⟨calls₁, o₁, hopen⟩ :=
    ends_openPipe cfg sc log hquiet.failures hx path
  let piped : Scene := { sc with pipe := some path, calls := calls₁ }
  obtain ⟨calls₂, hawait⟩ := ends_typeAndAwait piped log hquiet hcfg hargv hx hidle
    hinput hpending hsettled
  have hended : (piped.typed argv cfg.marker).complete server.captureDelay
      (underway server w.target argv cfg.marker) =
      ({ sc.after argv cfg.marker server.exitCode with
        pipe := some path, pending := sc.pending, calls := calls₁ } : Scene).behind files path
        (captured argv cfg.marker server.exitCode) server.captureDelay 0 := by
    rw [complete_behind (piped.typed argv cfg.marker) hfresh rfl hfiles hdelayed]
    rfl
  rw [hended] at hawait
  generalize hclosed : ({ ({ sc.after argv cfg.marker server.exitCode with
      pipe := some path, pending := sc.pending, calls := calls₁ } : Scene).behind files path
      (captured argv cfg.marker server.exitCode) server.captureDelay 0 with
        pending := none, calls := calls₂ } : Scene) = ended at hawait
  obtain ⟨calls₃, o₃, hclose⟩ :=
    ends_closePipe cfg ended log hquiet.failures hx
  have hquieted : ({ ended with pipe := none, calls := calls₃ } : Scene) =
      ({ sc.after argv cfg.marker server.exitCode with calls := calls₃ } : Scene).behind files path
        (captured argv cfg.marker server.exitCode) server.captureDelay 0 := by
    rw [← hclosed]
    exact behind_with _ files path _ _ 0 none none calls₃
  rw [hquieted] at hclose
  obtain ⟨reads, hread⟩ := ends_captureLines_behind cfg w server
    { sc.after argv cfg.marker server.exitCode with calls := calls₃ }
    (ended.on server w.target :: log) hfresh hcfg.flush hdelay
    (holdsMarker_captured server.exitCode hcfg.marker hargv)
  have hverdict := readCapture_captured server.exitCode hcfg.marker hcfg.not_dollar hargv
  refine ⟨ended.on server w.target, calls₃, reads, captured argv cfg.marker server.exitCode,
    ?_, ?_, ?_⟩
  · refine Ends.seq hopen (Ends.seq (Ends.attempt hawait) (Ends.seq (Ends.attempt hclose)
      (Ends.seq (Ends.ofExcept _ _) (Ends.seq (Ends.ofExcept _ _) (Ends.seq hread
      (Ends.seq (a := ⟨Utf8.encode (printed argv), server.exitCode⟩) ?_ (Ends.ofExcept _ _)))))))
    rw [hverdict]
    exact Ends.ofExcept _ _
  · rw [← hclosed]
    rfl
  · rw [window?_on hx, ← hclosed, Option.map_some]
    exact congrArg some (pane_behind _ _ _ _ _ _)

/-! ## The capture file -/

variable (cfg w server)

/-- A new file is empty and has the next number. -/
theorem ends_newFile :
    Ends (watching cfg w) (Tmux.Action.ofAnswer (Plan.request Exec.Request.newFile)).run
      (sc.on server w.target, log) (.ok (filePath (sc.filesMade + 1)))
      (({ sc with
          files := sc.files ++ [(filePath (sc.filesMade + 1), [])]
          filesMade := sc.filesMade + 1 } : Scene).on server w.target, log) := by
  have hne : Exec.Request.newFile ≠ closing cfg w := by
    rw [closing]
    exact fun e => by cases e
  refine Ends.ofAnswer (a := .ok (filePath (sc.filesMade + 1))) (Ends.request ?_ ?_)
  · rw [watching_of_ne hne]
    rfl
  · rw [watching_of_ne hne]
    rfl

theorem ends_removeFile (path : String) :
    Ends (watching cfg w) (Tmux.Action.ofAnswer (Plan.request (Exec.Request.removeFile path))).run
      (sc.on server w.target, log) (.ok ())
      (({ sc with files := sc.files.filter fun f => f.1 != path } : Scene).on server w.target,
        log) := by
  have hne : Exec.Request.removeFile path ≠ closing cfg w := by
    rw [closing]
    exact fun e => by cases e
  refine Ends.ofAnswer (a := .ok ()) (Ends.request ?_ ?_)
  · rw [watching_of_ne hne]
    rfl
  · rw [watching_of_ne hne]
    rfl

end Scene

end PaneRunner.Simulation
