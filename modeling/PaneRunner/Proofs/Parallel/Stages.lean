import PaneRunner.Proofs.Lifecycle.Creation
import PaneRunner.Proofs.Server.Scene
import PaneRunner.Proofs.Trace.Window

/-
  A run in a window, request by request. `Stage` is how far it has come, and `Job.plan` what is left of
  it then. A `View` is all that the run sees of the server: its window, and the content of its own
  capture file. Which number the file has is not part of the view, and neither is anything of another
  window, so `Job.next` says what one step makes of a view without saying when the step is made.
-/
namespace PaneRunner

namespace Poll.Limit

/-- The limit lets a first check be made, and does not look at the clock. -/
def Untimed (limit : Limit) : Prop :=
  limit.forbids = false ∧ ∀ made elapsed, limit.spent made elapsed = limit.spent made .zero

theorem untimed_attempts {most : Nat} (h : 0 < most) : Untimed (.attempts most) :=
  ⟨beq_eq_false_iff_ne.2 (Nat.pos_iff_ne_zero.1 h), fun _ _ => rfl⟩

end Poll.Limit

namespace Tmux.Settings

/-- No wait of a run looks at the clock. -/
structure Untimed (cfg : Settings) : Prop where
  prompt : cfg.promptReady.limit.Untimed
  command : cfg.commandTimeout = none
  flush : cfg.captureFlush.limit.Untimed

/-- The settings are so unless they are changed. -/
theorem untimed_default : Untimed {} :=
  ⟨Poll.Limit.untimed_attempts (by decide), rfl, Poll.Limit.untimed_attempts (by decide)⟩

end Tmux.Settings

namespace Simulation

open Text Plan Server

/-- A command, and the window to run it in. -/
structure Job where
  window : Tmux.Window
  argv : List String
  acceptAny : Bool

/-- How far a run has come. -/
inductive Stage where
  | creating (c : Creation)
  | prompting
  | filing
  | opening
  | typing
  | entering
  | marking
  | closing
  | reading
  | rereading
  | removing (r : Except Tmux.Error Exec.Output)
  | returned (r : Except Tmux.Error Exec.Output)

namespace Stage

/-- The stage of a run whose window is being made. -/
def ofCreation : Creation → Stage
  | .ended (.ok _) => .prompting
  | .ended (.error e) => .returned (.error e)
  | c => .creating c

theorem ofCreation_cases (c : Creation) :
    ofCreation c = .creating c ∨ ofCreation c = .prompting ∨ ∃ r, ofCreation c = .returned r := by
  cases c with
  | ended r =>
    cases r with
    | ok _ => exact .inr (.inl rfl)
    | error e => exact .inr (.inr ⟨_, rfl⟩)
  | _ => exact .inl rfl

/-- The window is piped into the run's own file. -/
def piped : Stage → Bool
  | .typing | .entering | .marking | .closing => true
  | _ => false

/-- The run has a file of its own. -/
def filed : Stage → Bool
  | .opening | .typing | .entering | .marking | .closing | .reading | .rereading | .removing _ => true
  | _ => false

theorem filed_of_piped {s : Stage} (h : s.piped = true) : s.filed = true := by
  cases s with
  | typing => rfl
  | entering => rfl
  | marking => rfl
  | closing => rfl
  | _ => cases h

end Stage

/-- What a run sees of the server. -/
structure View where
  stage : Stage
  /-- the checks that the wait at hand has made -/
  made : Nat := 0
  pane : List String
  /-- what was typed into the window, less the run's own line -/
  input : String
  /-- where the window is piped to, unless it is the run's own file -/
  pipe : Option String
  /-- what is in the run's own file -/
  content : Bytes := []

namespace Job

variable (cfg : Tmux.Settings) (job : Job)

/-- The whole run. -/
def run : Exec.Procedure (Except Tmux.Error Exec.Output) :=
  (job.window.run cfg job.argv job.acceptAny).run

/-- The line that the run types. -/
def line : String := Tmux.commandLine job.argv cfg.marker

/-- What the lines of the capture file come to. -/
def judged (ls : List Bytes) : Except Tmux.Error Exec.Output :=
  (Tmux.readCapture ls cfg.marker).bind (job.window.judge job.argv job.acceptAny)

section Rest

variable (path : String)

/-- The rest of a run that comes to `r`: the file is removed. -/
def rest (r : Except Tmux.Error Exec.Output) : Exec.Procedure (Except Tmux.Error Exec.Output) :=
  (Tmux.Action.ofAnswer (Plan.request (Exec.Request.removeFile path))).run.bind fun _ => .done r

/-- The rest of a run whose file has been read. -/
def restRead : Except Tmux.Error (List Bytes) → Exec.Procedure (Except Tmux.Error Exec.Output)
  | .ok ls => rest path (judged cfg job ls)
  | .error e => rest path (.error e)

/-- The rest of a run whose wait for the end marker is over: the pipe is closed. -/
def restWaited (waited : Except Tmux.Error Unit) :
    Exec.Procedure (Except Tmux.Error Exec.Output) :=
  (cfg.tmux ["pipe-pane", "-t", job.window.target, ""]).run.bind fun stopped =>
    (job.window.conclude cfg path job.argv job.acceptAny waited stopped).run.bind (rest path)

/-- What is left of a run at a stage; `path` is the run's own file. -/
def plan : Stage → Exec.Procedure (Except Tmux.Error Exec.Output)
  | .creating c =>
    (c.plan cfg job.window).bind (ExceptT.bindCont fun _ =>
      job.window.awaitPrompt cfg >>= fun _ => job.window.runPiped cfg job.argv job.acceptAny)
  | .prompting =>
    (job.window.awaitPrompt cfg).run.bind (ExceptT.bindCont fun _ =>
      job.window.runPiped cfg job.argv job.acceptAny)
  | .filing => (job.window.runPiped cfg job.argv job.acceptAny).run
  | .opening => (job.window.runInto cfg path job.argv job.acceptAny).run.bind (rest path)
  | .typing => (job.window.typeAndAwait cfg job.argv).run.bind (restWaited cfg job path)
  | .entering =>
    (cfg.tmux (Tmux.keyArgs job.window.target "enter") >>= fun _ =>
      job.window.awaitMarker cfg).run.bind (restWaited cfg job path)
  | .marking => (job.window.awaitMarker cfg).run.bind (restWaited cfg job path)
  | .closing => restWaited cfg job path (.ok ())
  | .reading => (cfg.captureLines path).run.bind (restRead cfg job path)
  | .rereading => (Tmux.fileLines path).run.bind (restRead cfg job path)
  | .removing r => rest path r
  | .returned r => .done r

end Rest

/-- The stage of a run that has not begun. -/
def first : Stage := if job.argv = [] then .returned (.error (.exec .emptyArgv)) else .creating .listing

/-- What a run sees before it begins. -/
def start (x : Window) : View :=
  { stage := job.first, pane := x.pane, input := x.input, pipe := x.pipe }

/-- What has been typed into the window. -/
def typed (v : View) : String :=
  match v.stage with
  | .entering => v.input ++ job.line cfg
  | _ => v.input

/-- What comes of a line with an end marker that is entered. -/
def entered (server : Server) (typed : String) : Pending :=
  let (command, marked) := (splitOnce? typed Tmux.markerCommand).getD ("", "")
  server.outcome job.window.target typed command marked

/-- What the run sees after its next step. Of the server only matters what no run changes. -/
def next (server : Server) (v : View) : View :=
  match v.stage with
  | .creating c => { v with stage := .ofCreation (c.next cfg job.window server), made := 0 }
  | .prompting =>
    if Tmux.isPrompt (Tmux.fromBottom (Tmux.shownLines (unlines v.pane)) 0) cfg.suffixes then
      { v with stage := .filing, made := 0 }
    else if cfg.promptReady.limit.spent (v.made + 1) .zero then
      { v with
        stage := .returned (.error (.promptNotReady job.window.address (v.made + 1))), made := 0 }
    else { v with made := v.made + 1 }
  | .filing => { v with stage := .opening, made := 0, content := [] }
  | .opening => { v with stage := .typing, made := 0 }
  | .typing =>
    { v with stage := .entering, made := 0, pane := extendLast v.pane (job.line cfg) }
  | .entering =>
    let p := job.entered server (v.input ++ job.line cfg)
    { v with
      stage := .marking, made := 0, pane := v.pane ++ p.paneLines, input := "",
      content := v.content ++ Utf8.encode p.capture }
  | .marking =>
    if Tmux.showsMarker (Tmux.shownLines (unlines v.pane)) cfg.marker then
      { v with stage := .closing, made := 0 }
    else { v with made := v.made + 1 }
  | .closing => { v with stage := .reading, made := 0, pipe := none }
  | .reading =>
    if Tmux.holdsMarker (Exec.fileLines v.content) cfg.marker then
      { v with stage := .removing (job.judged cfg (Exec.fileLines v.content)), made := 0 }
    else if cfg.captureFlush.limit.spent (v.made + 1) .zero then
      { v with stage := .rereading, made := 0 }
    else { v with made := v.made + 1 }
  | .rereading =>
    { v with stage := .removing (job.judged cfg (Exec.fileLines v.content)), made := 0 }
  | .removing r => { v with stage := .returned r, made := 0, content := [] }
  | .returned _ => v

/-! ## From stage to stage -/

variable {cfg job} {path : String}

variable (path) in
theorem plan_ofCreation (c : Creation) :
    job.plan cfg path (.ofCreation c) = (c.plan cfg job.window).bind (ExceptT.bindCont fun _ =>
      job.window.awaitPrompt cfg >>= fun _ => job.window.runPiped cfg job.argv job.acceptAny) := by
  cases c with
  | ended r =>
    cases r with
    | ok _ => rfl
    | error e => rfl
  | _ => rfl

theorem plan_first : job.plan cfg path job.first = job.run cfg := by
  unfold first run
  split
  · rename_i hargv
    rw [hargv]
    rfl
  · rename_i hargv
    have hassoc := bind_assoc (m := Tmux.Action) (job.window.create cfg)
      (fun _ => job.window.awaitPrompt cfg) fun _ => job.window.runPiped cfg job.argv job.acceptAny
    rw [Tmux.Window.run_eq cfg job.window hargv, Tmux.Window.getReady, hassoc]
    rfl

/-- Whether a run has a value, and which, does not depend on which file is its own. -/
theorem result?_plan (s : Stage) (path' : String) (made : Nat) :
    (⟨job.plan cfg path s, made⟩ : Underway Exec.Answer _).result? =
      (⟨job.plan cfg path' s, made⟩ : Underway Exec.Answer _).result? := by
  cases s <;> rfl

/-- A run that has a value has no file. -/
theorem filed_of_result? {s : Stage} {made : Nat}
    (h : (⟨job.plan cfg path s, made⟩ : Underway Exec.Answer _).result?.isSome = true) :
    s.filed = false := by
  cases s with
  | creating c => rfl
  | prompting => rfl
  | filing => rfl
  | returned r => rfl
  | _ => cases h

/-- Only a making is followed by a making. -/
theorem creating_of_next {server : Server} {v : View} {c : Creation}
    (hc : (job.next cfg server v).stage = .creating c) :
    ∃ c₀, v.stage = .creating c₀ ∧ Stage.ofCreation (c₀.next cfg job.window server) = .creating c := by
  obtain ⟨stage, made, pane, input, pipe, content⟩ := v
  unfold next at hc
  cases stage with
  | creating c₀ => exact ⟨c₀, rfl, hc⟩
  | prompting =>
    dsimp only at hc
    split at hc
    · cases hc
    · split at hc
      · cases hc
      · cases hc
  | marking =>
    dsimp only at hc
    split at hc
    · cases hc
    · cases hc
  | reading =>
    dsimp only at hc
    split at hc
    · cases hc
    · split at hc
      · cases hc
      · cases hc
  | _ => cases hc

/-- A making that has not added anything adds nothing. -/
theorem idle_next {server : Server} {v : View} (hcolon : ':' ∉ job.window.session.name.toList)
    (hthere : (server.window? job.window.target).isSome = true)
    (hidle : ∀ c, v.stage = .creating c → c.Idle server job.window) {c : Creation}
    (hc : (job.next cfg server v).stage = .creating c) : c.Idle server job.window := by
  obtain ⟨c₀, hstage, hnext⟩ := creating_of_next hc
  rcases (hidle c₀ hstage).next cfg hcolon hthere with ⟨r, hr⟩ | hstays
  · rw [hr] at hnext
    cases r <;> cases hnext
  · rcases Stage.ofCreation_cases (c₀.next cfg job.window server) with h | h | ⟨r, h⟩
    · cases h.symm.trans hnext
      exact hstays
    · cases h.symm.trans hnext
    · cases h.symm.trans hnext

variable (cfg) in
/-- The plan calls the multiplexer, and after a call that goes well it is `p'`. -/
def Calls (args : List String)
    (p p' : Exec.Procedure (Except Tmux.Error Exec.Output)) : Prop :=
  ∃ k : Except Tmux.Error Exec.Output → Exec.Procedure (Except Tmux.Error Exec.Output),
    p = (cfg.tmux args).run.bind k ∧ ∀ o, k (.ok o) = p'

theorem calls_opening :
    Calls cfg ["pipe-pane", "-t", job.window.target, Tmux.appendTo path] (job.plan cfg path .opening)
      (job.plan cfg path .typing) := by
  refine ⟨_, Plan.bind_assoc .., fun o => ?_⟩
  change Plan.bind ((job.window.typeAndAwait cfg job.argv).attempt >>= _).run (rest path) = _
  rw [run_attempt_bind, Plan.bind_assoc]
  rfl

variable (cfg job path) in
theorem calls_typing :
    Calls cfg (Tmux.keyArgs job.window.target (job.line cfg)) (job.plan cfg path .typing)
      (job.plan cfg path .entering) := by
  rw [plan, Tmux.Window.typeAndAwait_eq]
  exact ⟨_, Plan.bind_assoc .., fun _ => rfl⟩

theorem calls_entering :
    Calls cfg (Tmux.keyArgs job.window.target "enter") (job.plan cfg path .entering)
      (job.plan cfg path .marking) :=
  ⟨_, Plan.bind_assoc .., fun _ => rfl⟩

theorem calls_closing :
    Calls cfg ["pipe-pane", "-t", job.window.target, ""] (job.plan cfg path .closing)
      (job.plan cfg path .reading) := by
  refine ⟨_, rfl, fun o => ?_⟩
  refine (Plan.bind_assoc (cfg.captureLines path).run _ _).trans
    (congrArg (cfg.captureLines path).run.bind (funext fun read => ?_))
  cases read with
  | error e => rfl
  | ok ls =>
    change Plan.bind (Tmux.Action.ofExcept (Tmux.readCapture ls cfg.marker) >>= fun c =>
      Tmux.Action.ofExcept (job.window.judge job.argv job.acceptAny c)).run (rest path) = _
    rw [restRead, judged]
    cases Tmux.readCapture ls cfg.marker with
    | error e => rfl
    | ok c => rfl

end Job

end Simulation

end PaneRunner
