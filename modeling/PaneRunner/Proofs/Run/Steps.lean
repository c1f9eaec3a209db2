import PaneRunner.Proofs.Run.Screen
import PaneRunner.Proofs.Run.TypedLine
import PaneRunner.Proofs.Server.Scene
import PaneRunner.Tmux.Run

/-
  The steps of a run, one lemma for each, as changes of a scene. A look at the pane lets a command
  that is under way go on (`watching_look`). The wait for the end marker ends with the first look
  that shows it: at once if one stands above the last line (`ends_awaitMarker_now`), and with the
  output of the command if there is no other (`ends_awaitMarker`).
-/
namespace PaneRunner.Simulation.Scene

open Text Plan Server

variable (cfg : Tmux.Settings) {w : Tmux.Window} {server : Server} {x : Window} (sc : Scene)
  (log : List Server)

/-! ## Pipes and keys -/

theorem pipePath?_appendTo (path : String) : pipePath? (Tmux.appendTo path) = some path := by
  rw [pipePath?, Tmux.appendTo, stripStart?_append]
  simp [PaneRunner.Shell.words_quote]

/-- Opening the pipe. -/
theorem ends_openPipe (hfail : server.failures = []) (hx : server.window? w.target = some x)
    (path : String) :
    ∃ calls o, Ends (watching cfg w)
      (cfg.tmux ["pipe-pane", "-t", w.target, Tmux.appendTo path]).run (sc.on server w.target, log)
      (.ok o) (({ sc with pipe := some path, calls } : Scene).on server w.target, log) := by
  let called := sc.heard (cfg.binary :: "pipe-pane" :: ["-t", w.target, Tmux.appendTo path])
  have hpiped := pipePane_on called hx (Tmux.appendTo path)
  rw [pipePath?_appendTo] at hpiped
  have hscene : (sc.on server w.target).failures = [] := hfail
  refine ⟨_, _, ends_tmux hscene ?_ hpiped⟩
  simp [Tmux.appendTo_ne_empty]

/-- Closing the pipe is noticed. -/
theorem ends_closePipe (hfail : server.failures = []) (hx : server.window? w.target = some x) :
    ∃ calls o, Ends (watching cfg w)
      (cfg.tmux ["pipe-pane", "-t", w.target, ""]).run (sc.on server w.target, log)
      (.ok o) (({ sc with pipe := none, calls } : Scene).on server w.target,
        sc.on server w.target :: log) := by
  have hpiped := pipePane_on (sc.heard [cfg.binary, "pipe-pane", "-t", w.target, ""]) hx ""
  rw [show pipePath? "" = none by decide] at hpiped
  have hscene : (sc.on server w.target).failures = [] := hfail
  exact ⟨_, _, ends_closing hscene hpiped⟩

/-- Typing a command line and entering it. -/
theorem ends_sendKeys (hfail : server.failures = []) (hx : server.window? w.target = some x)
    (hinput : sc.input = "") (argv : List String) :
    ∃ calls, Ends (watching cfg w)
      (w.sendKeys cfg [Tmux.commandLine argv cfg.marker, "enter"]).run
      (sc.on server w.target, log) (.ok ())
      ((({ sc with
          pane := extendLast sc.pane (Tmux.commandLine argv cfg.marker), input := "", calls } :
        Scene).enter server.captureDelay (server.outcome w.target (Tmux.commandLine argv cfg.marker)
          (PaneRunner.Shell.join argv) (Tmux.marked cfg.marker))).on server w.target, log) := by
  have hkeys := Tmux.keyArgs_of_text (Tmux.isKey_commandLine argv cfg.marker) w.target
  generalize htyped : Tmux.commandLine argv cfg.marker = typed at hkeys ⊢
  have hsplit : splitOnce? (sc.input ++ typed) Tmux.markerCommand =
      some (PaneRunner.Shell.join argv, Tmux.marked cfg.marker) := by
    rw [hinput, String.empty_append, ← htyped]
    exact Tmux.splitOnce?_commandLine argv cfg.marker
  let called := sc.heard
    (cfg.binary :: "send-keys" :: "-t" :: w.target :: "-H" :: Tmux.hexBytes typed)
  have htype := sendKeys_on_text called hx (Tmux.hexBytes typed)
  rw [Tmux.typedText_hexBytes] at htype
  let called' := (called.type typed).heard (cfg.binary :: Tmux.keyArgs w.target "enter")
  have henter := sendKeys_on_enter called' hx hsplit
  rw [show called'.input = typed by
    change sc.input ++ typed = typed
    rw [hinput, String.empty_append]] at henter
  have hfirst : Ends (watching cfg w)
      (cfg.tmux ("send-keys" :: "-t" :: w.target :: "-H" :: Tmux.hexBytes typed)).run
      (sc.on server w.target, log) (.ok _) ((called.type typed).on server w.target, log) :=
    ends_tmux hfail (by simp) htype
  have hsecond : Ends (watching cfg w) (cfg.tmux ["send-keys", "-t", w.target, "enter"]).run
      ((called.type typed).on server w.target, log) (.ok _) (_, log) :=
    ends_tmux hfail (by simp) henter
  rw [← hkeys] at hfirst
  exact ⟨called'.calls, Ends.seq (Ends.seq hfirst (Ends.pure _ _))
    (Ends.seq (Ends.seq hsecond (Ends.pure _ _)) (Ends.pure _ _))⟩

/-! ## Looks -/

/-- The call that looks at the pane. -/
def look (cfg : Tmux.Settings) (w : Tmux.Window) : List String :=
  cfg.binary :: Tmux.captureArgs w.target

/-- The scene after a look at the pane. -/
def looked (sc : Scene) (cfg : Tmux.Settings) (w : Tmux.Window) (delay : Nat) : Scene :=
  (sc.heard (look cfg w)).advance delay

/-- A look shows the pane, after what it lets happen. -/
theorem executor_look (hfail : server.failures = []) (hx : server.window? w.target = some x)
    (hp : ∀ p ∈ sc.pending, p.address = w.target) :
    executor (.run (w.capture cfg)) (sc.on server w.target) =
      { value := .ok { stdout := Utf8.encode (unlines (sc.looked cfg w server.captureDelay).pane) }
        state := (sc.looked cfg w server.captureDelay).on server w.target } := by
  have hscene : (sc.on server w.target).failures = [] := hfail
  have hrun := executor_run hscene cfg.binary "capture-pane" ["-J", "-p", "-S", "-", "-t", w.target]
    false
  have hlook : (((sc.on server w.target).heard (look cfg w)).subcommand "capture-pane"
      ["-J", "-p", "-S", "-", "-t", w.target]) = _ :=
    capturePane_on (sc.heard (look cfg w)) hx hp
  rw [Tmux.Window.capture, Tmux.captureArgs, hrun, ← Tmux.captureArgs, ← look, hlook]
  rfl

theorem watching_look (hfail : server.failures = []) (hx : server.window? w.target = some x)
    (hp : ∀ p ∈ sc.pending, p.address = w.target) :
    watching cfg w (.run (w.capture cfg)) (sc.on server w.target, log) =
      { value := .ok { stdout := Utf8.encode (unlines (sc.looked cfg w server.captureDelay).pane) }
        state := ((sc.looked cfg w server.captureDelay).on server w.target, log) } := by
  have hne : Exec.Request.run (w.capture cfg) ≠ closing cfg w := run_ne_closing (by simp)
  rw [watching_of_ne hne, executor_look cfg sc hfail hx hp]

/-- A poll of the pane may end with its first look. -/
theorem ends_pollScreen {β : Type} {policy : Poll.Policy} {check : String → Option β}
    {gaveUp : Poll.Report → Tmux.Action β} {b : β} (hfail : server.failures = [])
    (hx : server.window? w.target = some x) (hp : ∀ p ∈ sc.pending, p.address = w.target)
    (hcheck : check (unlines (sc.looked cfg w server.captureDelay).pane) = some b)
    (hlimit : policy.limit.Allows 0) :
    Ends (watching cfg w) (w.pollScreen cfg policy check gaveUp).run (sc.on server w.target, log)
      (.ok b) ((sc.looked cfg w server.captureDelay).on server w.target, log) := by
  have hlook := watching_look cfg sc log hfail hx hp
  refine Ends.pollOn_first
    (a := { stdout := Utf8.encode (unlines (sc.looked cfg w server.captureDelay).pane) })
    ?_ ?_ ?_ hlimit
  · rw [hlook]
  · rw [hlook]
  · rw [Exec.Output.stdoutText, Utf8.decode_encode, hcheck]

/-- The wait for a prompt ends at once when there is one. -/
theorem ends_awaitPrompt (hfail : server.failures = []) (hx : server.window? w.target = some x)
    (hpending : sc.pending = none) (hlast : Tmux.ShowsLast sc.pane "$ ")
    (hprompt : Tmux.isPrompt "$ " cfg.suffixes = true) (hready : cfg.promptReady.limit.Allows 0) :
    ∃ calls, Ends (watching cfg w) (w.awaitPrompt cfg).run (sc.on server w.target, log) (.ok ())
      (({ sc with calls } : Scene).on server w.target, log) := by
  have hsame : sc.looked cfg w server.captureDelay = sc.heard (look cfg w) := by
    rw [looked, advance, show (sc.heard (look cfg w)).pending = none from hpending]
  refine ⟨(sc.heard (look cfg w)).calls, ?_⟩
  rw [show (({ sc with calls := (sc.heard (look cfg w)).calls } : Scene)) =
    sc.looked cfg w server.captureDelay from hsame.symm]
  refine ends_pollScreen cfg sc log hfail hx (by simp [hpending]) ?_ hready
  have hshown : Tmux.fromBottom (Tmux.shownLines (unlines (sc.heard (look cfg w)).pane)) 0 = "$ " :=
    Tmux.fromBottom_shown hlast
  rw [hsame, hshown, if_pos hprompt]

/-- The marker is one of the last two lines that a pane shows. -/
def Marked (pane : List String) (marker : String) : Prop :=
  Tmux.showsMarker (Tmux.shownLines (unlines pane)) marker = true

theorem allows_commandCompletion {cfg : Tmux.Settings} (htimeout : cfg.commandTimeout = none)
    (m : Nat) :
    cfg.commandCompletion.limit.Allows m := by
  rw [Tmux.Settings.commandCompletion, htimeout]
  exact Poll.Limit.allows_unbounded m

/-- The wait for the end marker ends with the first look if that shows it. -/
theorem ends_awaitMarker_now (hfail : server.failures = [])
    (hx : server.window? w.target = some x) (hp : ∀ p ∈ sc.pending, p.address = w.target)
    (htimeout : cfg.commandTimeout = none)
    (hmarked : Marked (sc.looked cfg w server.captureDelay).pane cfg.marker) :
    Ends (watching cfg w) (w.awaitMarker cfg).run (sc.on server w.target, log) (.ok ())
      ((sc.looked cfg w server.captureDelay).on server w.target, log) :=
  ends_pollScreen cfg sc log hfail hx hp (if_pos hmarked) (allows_commandCompletion htimeout 0)

/-- The scene after some looks at a pane in which a command goes on that ends with look number `n`.
-/
def lookedAt (sc : Scene) (cfg : Tmux.Settings) (w : Tmux.Window) (delay n : Nat) (p : Pending)
    (looks : Nat) : Scene :=
  let calls := List.replicate looks (look cfg w) ++ sc.calls
  if looks < n then { sc with pending := some { p with pollsLeft := n - looks }, calls }
  else { sc.complete delay p with pending := none, calls }

theorem looked_lookedAt (sc : Scene) (cfg : Tmux.Settings) (w : Tmux.Window) (delay : Nat)
    {n : Nat} (p : Pending) {looks : Nat} (h : looks < n) :
    (sc.lookedAt cfg w delay n p looks).looked cfg w delay =
      sc.lookedAt cfg w delay n p (looks + 1) := by
  rw [lookedAt, if_pos h, looked, heard, advance]
  dsimp only
  rw [lookedAt]
  by_cases hlast : n - looks - 1 = 0
  · rw [if_pos hlast, if_neg (by omega)]
    exact complete_with sc delay p _ none _
  · rw [if_neg hlast, if_pos (by omega), Nat.sub_sub]
    rfl

/-- The wait for the end marker goes on until the command has ended. -/
theorem ends_awaitMarker (hfail : server.failures = []) (hx : server.window? w.target = some x)
    {p : Pending} (hpending : sc.pending = some p) (hp : p.address = w.target)
    (hpos : 0 < p.pollsLeft) (htimeout : cfg.commandTimeout = none)
    (hhidden : 1 < p.pollsLeft → ¬ Marked sc.pane cfg.marker)
    (hshown : Marked (sc.pane ++ p.paneLines) cfg.marker) :
    ∃ calls, Ends (watching cfg w) (w.awaitMarker cfg).run (sc.on server w.target, log) (.ok ())
      (({ sc.complete server.captureDelay p with pending := none, calls } : Scene).on server w.target,
        log) := by
  let st := sc.lookedAt cfg w server.captureDelay p.pollsLeft p
  have hstart : st 0 = sc := by
    change sc.lookedAt cfg w server.captureDelay p.pollsLeft p 0 = sc
    rw [lookedAt, if_pos hpos, Nat.sub_zero, ← hpending]
    rfl
  have hend : st p.pollsLeft = { sc.complete server.captureDelay p with
      pending := none, calls := List.replicate p.pollsLeft (look cfg w) ++ sc.calls } :=
    if_neg (Nat.lt_irrefl _)
  have hlook : ∀ i < p.pollsLeft,
      watching cfg w (.run (w.capture cfg)) ((st i).on server w.target, log) =
        { value := .ok { stdout := Utf8.encode (unlines (st (i + 1)).pane) }
          state := ((st (i + 1)).on server w.target, log) } := by
    intro i hi
    have hwatched := watching_look cfg (st i) log hfail hx (by
      change ∀ q ∈ (sc.lookedAt cfg w server.captureDelay p.pollsLeft p i).pending, _
      rw [lookedAt, if_pos hi]
      simpa using hp)
    rwa [looked_lookedAt sc cfg w server.captureDelay p hi] at hwatched
  have hlast : p.pollsLeft - 1 + 1 = p.pollsLeft := Nat.sub_add_cancel hpos
  have hwait : Ends (watching cfg w) (w.awaitMarker cfg).run ((st 0).on server w.target, log)
      (.ok ()) ((st (p.pollsLeft - 1 + 1)).on server w.target, log) := by
    refine Ends.pollOn_ready (fun i => ((st i).on server w.target, log))
      (a := { stdout := Utf8.encode (unlines (st p.pollsLeft).pane) }) (b := ())
      (fun i hi => by rw [hlook i (by omega)]) (fun i hi => ?_) ?_ ?_ ?_
    · refine ⟨_, by rw [hlook i (by omega)], ?_⟩
      have hpane : (st (i + 1)).pane = sc.pane := by
        change (sc.lookedAt cfg w server.captureDelay p.pollsLeft p (i + 1)).pane = sc.pane
        rw [lookedAt, if_pos (by omega)]
      rw [Exec.Output.stdoutText, Utf8.decode_encode, hpane]
      exact if_neg (hhidden (by omega))
    · rw [hlook _ (by omega), hlast]
    · rw [Exec.Output.stdoutText, Utf8.decode_encode, hend]
      exact if_pos (by rw [pane_complete]; exact hshown)
    · exact allows_commandCompletion htimeout _
  rw [hstart, hlast, hend] at hwait
  exact ⟨_, hwait⟩

end PaneRunner.Simulation.Scene
