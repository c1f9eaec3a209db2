import PaneRunner.Proofs.Server.Listing

/-
  What happens in one window. A `Scene` is what a server has to do with a command in one window: the
  window itself, the capture files, and what is still under way. `Scene.on` puts a scene into a
  server, and everything else in the server stays. Each thing that is done to the server at the
  window's address is a change of the scene: one lemma for each request.
-/
namespace PaneRunner.Simulation

open Text Plan Server

structure Scene where
  pane : List String
  input : String := ""
  pipe : Option String := none
  pending : Option Pending := none
  files : List (String × Bytes)
  filesMade : Nat
  delayed : Option Delayed := none
  fileReads : Nat
  calls : List (List String)

namespace Scene

/-- The window as the scene has it. -/
def window (sc : Scene) (x : Window) : Window :=
  { x with pane := sc.pane, input := sc.input, pipe := sc.pipe }

/-- The server with the scene in the window at an address. -/
def on (sc : Scene) (server : Server) (address : String) : Server :=
  { server with
    sessions := (server.onWindow address sc.window).sessions
    pending := sc.pending
    files := sc.files
    filesMade := sc.filesMade
    delayed := sc.delayed
    fileReads := sc.fileReads
    calls := sc.calls }

/-- The scene that a server has in a window. -/
def of (server : Server) (x : Window) : Scene where
  pane := x.pane
  input := x.input
  pipe := x.pipe
  pending := server.pending
  files := server.files
  filesMade := server.filesMade
  delayed := server.delayed
  fileReads := server.fileReads
  calls := server.calls

variable {sc : Scene} {server : Server} {address : String} {x : Window}

theorem of_on (h : server.window? address = some x) : (of server x).on server address = server := by
  have hself : server.onWindow address (of server x).window = server := by
    refine onWindow_self fun y hy => ?_
    cases h.symm.trans hy
    rfl
  rw [on, hself]
  rfl

/-- A scene with the files that were there and nothing new under way changes the window and what is
counted and logged. -/
theorem on_eq (hpending : sc.pending = server.pending) (hfiles : sc.files = server.files)
    (hdelayed : sc.delayed = server.delayed) :
    sc.on server address =
      { server.onWindow address sc.window with
        filesMade := sc.filesMade
        fileReads := sc.fileReads
        calls := sc.calls } := by
  rw [on, hpending, hfiles, hdelayed, onWindow_eq]

theorem window?_on (h : server.window? address = some x) :
    (sc.on server address).window? address = some (sc.window x) := by
  have hsame : (sc.on server address).window? address =
      (server.onWindow address sc.window).window? address := window?_congr rfl
  rw [hsame, window?_onWindow (f := sc.window) fun _ => rfl, h, Option.map_some]

/-- Another window is what it was. -/
theorem window?_on_of_ne {w v : Tmux.Window} (hw : ':' ∉ w.session.name.toList)
    (hv : ':' ∉ v.session.name.toList) (hne : v ≠ w) :
    (sc.on server w.target).window? v.target = server.window? v.target := by
  have hsame : (sc.on server w.target).window? v.target =
      (server.onWindow w.target sc.window).window? v.target := window?_congr rfl
  rw [hsame, window?_onWindow_of_ne (f := sc.window) hw hv hne fun _ => rfl]

/-- A change of the window is a change of the scene. -/
theorem onWindow_on {f : Window → Window} {pane : List String} {input : String}
    {pipe : Option String}
    (hf : ∀ x, f (sc.window x) = { sc.window x with pane, input, pipe }) :
    (sc.on server address).onWindow address f =
      ({ sc with pane, input, pipe } : Scene).on server address := by
  have hsessions : ((sc.on server address).onWindow address f).sessions =
      (server.onWindow address fun x => f (sc.window x)).sessions := by
    rw [← onWindow_onWindow (f := sc.window) fun _ => rfl]
    exact sessions_onWindow_congr rfl
  rw [onWindow_eq, hsessions, show (fun x => f (sc.window x)) =
    ({ sc with pane, input, pipe } : Scene).window from funext hf]
  rfl

/-! ## Commands that end -/

/-- The capture files with more at the end of one of them. -/
def appended (files : List (String × Bytes)) (path : String) (content : Bytes) :
    List (String × Bytes) :=
  files.map fun (p, bs) => if p = path then (p, bs ++ content) else (p, bs)

/-- The scene after a command has ended whose capture stays behind for `delay` reads. -/
def complete (sc : Scene) (delay : Nat) (p : Pending) : Scene :=
  let shown : Scene := { sc with pane := sc.pane ++ p.paneLines }
  match sc.pipe with
  | none => shown
  | some path =>
    let content := Utf8.encode p.capture
    if delay = 0 then { shown with files := appended sc.files path content }
    else { shown with delayed := some { path, readsLeft := delay, content } }

theorem pane_complete (sc : Scene) (delay : Nat) (p : Pending) :
    (sc.complete delay p).pane = sc.pane ++ p.paneLines := by
  rw [complete]
  cases sc.pipe with
  | none => rfl
  | some path =>
    dsimp only
    split <;> rfl

/-- How a command ends depends neither on the log nor on what else is under way. -/
theorem complete_with (sc : Scene) (delay : Nat) (p : Pending) (looks : Nat)
    (pending : Option Pending) (calls : List (List String)) :
    ({ sc with pending, calls } : Scene).complete delay { p with pollsLeft := looks } =
      { sc.complete delay p with pending, calls } := by
  rw [complete, complete]
  cases sc.pipe with
  | none => rfl
  | some path =>
    dsimp only
    split <;> rfl

theorem complete_on (h : server.window? address = some x) {p : Pending} (hp : p.address = address) :
    (sc.on server address).complete p = (sc.complete server.captureDelay p).on server address := by
  have hshown : ((sc.on server address).onWindow address
      fun w => { w with pane := w.pane ++ p.paneLines }) =
        ({ sc with pane := sc.pane ++ p.paneLines } : Scene).on server address :=
    onWindow_on fun _ => rfl
  rw [Server.complete, hp, window?_on h, hshown]
  dsimp only [window]
  rw [complete]
  cases sc.pipe with
  | none => rfl
  | some path =>
    dsimp only
    by_cases hdelay : server.captureDelay = 0
    · rw [if_pos hdelay]
      exact if_pos hdelay
    · rw [if_neg hdelay]
      exact if_neg hdelay

/-- The scene after a look at the pane. -/
def advance (sc : Scene) (delay : Nat) : Scene :=
  match sc.pending with
  | none => sc
  | some p =>
    if p.pollsLeft - 1 = 0 then
      ({ sc with pending := none } : Scene).complete delay { p with pollsLeft := p.pollsLeft - 1 }
    else { sc with pending := some { p with pollsLeft := p.pollsLeft - 1 } }

theorem advance_on (h : server.window? address = some x)
    (hp : ∀ p ∈ sc.pending, p.address = address) :
    (sc.on server address).advance address =
      (sc.advance server.captureDelay).on server address := by
  have hpending : (sc.on server address).pending = sc.pending := rfl
  rw [Server.advance, advance, hpending]
  cases hsc : sc.pending with
  | none => rfl
  | some p =>
    have hpa := hp p (by simp [hsc])
    dsimp only
    rw [if_pos hpa]
    by_cases hlast : p.pollsLeft - 1 = 0
    · rw [if_pos hlast, if_pos hlast]
      have hdone : (({ sc with pending := none } : Scene).on server address).complete
          { p with pollsLeft := p.pollsLeft - 1 } = _ := complete_on h hpa
      exact hdone
    · rw [if_neg hlast, if_neg hlast]
      rfl

/-- The scene after a line was entered that has an outcome. -/
def enter (sc : Scene) (delay : Nat) (p : Pending) : Scene :=
  if p.pollsLeft = 0 then sc.complete delay p else { sc with pending := some p }

theorem submit_on (h : server.window? address = some x) {typed command marked : String}
    (hsplit : splitOnce? typed Tmux.markerCommand = some (command, marked)) :
    (sc.on server address).submit address typed =
      (sc.enter server.captureDelay (server.outcome address typed command marked)).on server
        address := by
  have hout : (sc.on server address).outcome address typed command marked =
      server.outcome address typed command marked := rfl
  rw [submit, hsplit]
  dsimp only
  rw [hout, enter]
  by_cases hnow : (server.outcome address typed command marked).pollsLeft = 0
  · rw [if_pos hnow, if_pos hnow, complete_on h rfl]
  · rw [if_neg hnow, if_neg hnow]
    rfl

/-! ## Subcommands -/

/-- The scene with one more call in the log. -/
def heard (sc : Scene) (argv : List String) : Scene := { sc with calls := argv :: sc.calls }

theorem capturePane_on (sc : Scene) (h : server.window? address = some x)
    (hp : ∀ p ∈ sc.pending, p.address = address) :
    (sc.on server address).capturePane ["-J", "-p", "-S", "-", "-t", address] =
      ((sc.advance server.captureDelay).on server address).accept
        (unlines (sc.advance server.captureDelay).pane) := by
  have htarget : flagValue? ["-J", "-p", "-S", "-", "-t", address] "-t" = some address := rfl
  rw [capturePane, htarget, Option.getD_some, advance_on h hp, window?_on h]
  rfl

theorem pipePane_on (sc : Scene) (h : server.window? address = some x) (command : String) :
    (sc.on server address).pipePane ["-t", address, command] =
      (({ sc with pipe := pipePath? command } : Scene).on server address).accept "" := by
  have htarget : flagValue? ["-t", address, command] "-t" = some address := rfl
  have hpiped : ((sc.on server address).onWindow address
      fun w => { w with pipe := pipePath? command }) =
        ({ sc with pipe := pipePath? command } : Scene).on server address :=
    onWindow_on fun _ => rfl
  rw [pipePane, htarget, Option.getD_some, window?_on h]
  exact congrArg (fun s => accept s "") hpiped

/-- The scene after text was typed. -/
def type (sc : Scene) (text : String) : Scene :=
  { sc with input := sc.input ++ text, pane := extendLast sc.pane text }

theorem sendKeys_on_text (sc : Scene) (h : server.window? address = some x) (keys : List String) :
    (sc.on server address).sendKeys ("-t" :: address :: "-H" :: keys) =
      ((sc.type (typedText keys)).on server address).accept "" := by
  have htarget : flagValue? ("-t" :: address :: "-H" :: keys) "-t" = some address := rfl
  have htyped : ((sc.on server address).onWindow address fun w =>
      { w with input := w.input ++ typedText keys, pane := extendLast w.pane (typedText keys) }) =
        (sc.type (typedText keys)).on server address := onWindow_on fun _ => rfl
  rw [sendKeys, htarget, Option.getD_some, window?_on h]
  exact congrArg (fun s => accept s "") htyped

theorem sendKeys_on_enter (sc : Scene) (h : server.window? address = some x) {command marked : String}
    (hsplit : splitOnce? sc.input Tmux.markerCommand = some (command, marked)) :
    (sc.on server address).sendKeys ["-t", address, "enter"] =
      ((({ sc with input := "" } : Scene).enter server.captureDelay
        (server.outcome address sc.input command marked)).on server address).accept "" := by
  have htarget : flagValue? ["-t", address, "enter"] "-t" = some address := rfl
  have hcleared : ((sc.on server address).onWindow address fun w => { w with input := "" }) =
      ({ sc with input := "" } : Scene).on server address := onWindow_on fun _ => rfl
  rw [sendKeys, htarget, Option.getD_some, window?_on h]
  change (((sc.on server address).onWindow address fun w => { w with input := "" }).submit address
    sc.input).accept "" = _
  rw [hcleared, submit_on h hsplit]

/-! ## Files -/

/-- The scene after a file was read. -/
def read (sc : Scene) (path : String) : Scene :=
  let sc := { sc with fileReads := sc.fileReads + 1 }
  match sc.delayed with
  | none => sc
  | some d =>
    let left := if d.path = path then d.readsLeft - 1 else d.readsLeft
    if left = 0 then { sc with delayed := none, files := appended sc.files d.path d.content }
    else { sc with delayed := some { d with readsLeft := left } }

theorem readFile_on (path : String) :
    (sc.on server address).readFile path =
      (match (sc.read path).files.lookup path with
        | some content => .ok content
        | none => .error (.executionFailed ("no such file: " ++ path)),
        (sc.read path).on server address) := by
  have hflush : ({ sc.on server address with
      fileReads := (sc.on server address).fileReads + 1 } : Server).flush path =
        (sc.read path).on server address := by
    have hdelayed : (sc.on server address).delayed = sc.delayed := rfl
    rw [flush, read]
    dsimp only
    rw [hdelayed]
    cases sc.delayed with
    | none => rfl
    | some d =>
      dsimp only
      generalize (if d.path = path then d.readsLeft - 1 else d.readsLeft) = left
      by_cases hlast : left = 0
      · rw [if_pos hlast, if_pos hlast]
        rfl
      · rw [if_neg hlast, if_neg hlast]
        rfl
  rw [readFile, hflush]
  rfl

end Scene

end PaneRunner.Simulation
