import Mathlib.Data.Sigma.Basic
import PaneRunner.Proofs.Run.TypedLine
import PaneRunner.Proofs.Trace.Actions
import PaneRunner.Tmux.Run

/-
  Traces of a window's procedures. Before a command is typed only sessions and windows are listed and
  made (`within_create`), and the screen is looked at until it shows a prompt (`of_getReady`). Typing
  is one call for the line and one for the enter key; then the screen is looked at again
  (`of_typeAndAwait`). A run is getting ready (`run_eq`), then making a file, running into it, and
  removing it (`of_runPiped`); running into it is opening the pipe, typing, closing the pipe
  (`of_runInto`), and reading the file unless something failed (`conclude`).
-/
namespace PaneRunner.Tmux

open Plan

/-- The subcommand that a request puts to the multiplexer; requests about files put none. -/
def subcommand? : Exec.Request → Option String
  | .run i => i.argv[1]?
  | _ => none

/-- A request puts one of these subcommands to the multiplexer. -/
def Among (subs : List String) (r : Exec.Request) : Prop := ∃ sub ∈ subs, subcommand? r = some sub

theorem Among.mono {subs subs' : List String} {r : Exec.Request} (h : Among subs r)
    (hsubs : subs ⊆ subs') : Among subs' r := by
  obtain ⟨sub, hsub, hr⟩ := h
  exact ⟨sub, hsubs hsub, hr⟩

theorem Among.subcommand_ne {subs : List String} {r : Exec.Request} (h : Among subs r) {sub : String}
    (hsub : sub ∉ subs) : subcommand? r ≠ some sub := by
  obtain ⟨sub', hsub', hr⟩ := h
  rw [hr]
  intro heq
  exact hsub (Option.some.inj heq ▸ hsub')

/-- Requests about files are none of them. -/
theorem Among.ne_of_none {subs : List String} {r r' : Exec.Request} (h : Among subs r)
    (hnone : subcommand? r' = none) : r ≠ r' := by
  obtain ⟨sub, -, hr⟩ := h
  rintro rfl
  rw [hnone] at hr
  cases hr

/-- The screen shows a prompt at its end. -/
def Settings.showsPrompt (cfg : Settings) (o : Exec.Output) : Bool :=
  isPrompt (fromBottom (shownLines o.stdoutText) 0) cfg.suffixes

/-- The screen shows the end marker at its end. -/
def Settings.showsMarker (cfg : Settings) (o : Exec.Output) : Bool :=
  Tmux.showsMarker (shownLines o.stdoutText) cfg.marker

namespace Window

variable (cfg : Settings) (w : Window)

/-- The request that runs the multiplexer in some way. -/
abbrev call (args : List String) : Exec.Request := .run { argv := cfg.binary :: args }

/-- The request that shows the screen. -/
abbrev looking : Exec.Request := .run (w.capture cfg)

/-- The request that pipes the window's output into a file. -/
abbrev opening (path : String) : Exec.Request :=
  call cfg ["pipe-pane", "-t", w.target, appendTo path]

/-- The request that closes the pipe. -/
abbrev closing : Exec.Request := call cfg ["pipe-pane", "-t", w.target, ""]

/-- The request that types the command line. -/
abbrev typing (argv : List String) : Exec.Request :=
  call cfg (keyArgs w.target (commandLine argv cfg.marker))

/-- The request that enters it. -/
abbrev entering : Exec.Request := call cfg (keyArgs w.target "enter")

theorem opening_ne_closing (path : String) : w.opening cfg path ≠ w.closing cfg := by
  intro h
  have hcommand : appendTo path = "" := by simpa using h
  exact appendTo_ne_empty path hcommand

/-- Make the window, and wait for its prompt. -/
def getReady : Action Unit := do
  w.create cfg
  w.awaitPrompt cfg

/-- What is left of a run in a window that is ready. -/
def runPiped (argv : List String) (acceptAny : Bool) : Action Exec.Output := do
  let path ← Action.ofAnswer (Plan.request Exec.Request.newFile)
  let result ← (w.runInto cfg path argv acceptAny).attempt
  let _ ← (Action.ofAnswer (Plan.request (Exec.Request.removeFile path))).attempt
  Action.ofExcept result

/-- What is left of a run when the pipe has been closed. -/
def conclude (path : String) (argv : List String) (acceptAny : Bool) (waited : Except Error Unit)
    (stopped : Except Error Exec.Output) : Action Exec.Output := do
  Action.ofExcept waited
  let _ ← Action.ofExcept stopped
  let ls ← cfg.captureLines path
  let c ← Action.ofExcept (readCapture ls cfg.marker)
  Action.ofExcept (w.judge argv acceptAny c)

theorem run_nil (acceptAny : Bool) : w.run cfg [] acceptAny = throw (.exec .emptyArgv) := rfl

theorem run_eq {argv : List String} (hargv : argv ≠ []) (acceptAny : Bool) :
    w.run cfg argv acceptAny = w.getReady cfg >>= fun _ => w.runPiped cfg argv acceptAny := by
  have hne : argv.isEmpty = false := by
    cases argv with
    | nil => exact absurd rfl hargv
    | cons a argv => rfl
  unfold run
  rw [hne]
  have hassoc := bind_assoc (m := Action) (w.create cfg) (fun _ => w.awaitPrompt cfg)
    fun _ => w.runPiped cfg argv acceptAny
  exact hassoc.symm

/-! ## Getting ready -/

/-- The subcommands that list and make sessions and windows. -/
def makers : List String := ["ls", "list-windows", "new-session", "new-window"]

/-- A request lists or makes sessions or windows. -/
abbrev Makes : Exec.Request → Prop := Among makers

theorem within_exists_session (s : Session) : Within Makes (s.exists? cfg).run := by
  refine Within.seq ?_ fun names => Within.pure _
  refine Within.seq (Within.tmuxAny cfg ⟨"ls", by decide, rfl⟩) fun o => ?_
  split
  · exact Within.pure _
  · split
    · exact Within.pure _
    · exact Within.throw _

theorem within_exists : Within Makes (w.exists? cfg).run := by
  refine Within.seq ?_ fun names => Within.pure _
  refine Within.seq (within_exists_session cfg w.session) fun here => ?_
  split
  · exact Within.seq (Within.tmux cfg ⟨"list-windows", by decide, rfl⟩) fun o => Within.pure _
  · exact Within.pure _

/-- Making a window is listing sessions and windows, and making what is missing. -/
theorem within_create : Within Makes (w.create cfg).run := by
  refine Within.seq (within_exists cfg w) fun here => ?_
  split
  · exact Within.pure _
  refine Within.seq (within_exists_session cfg w.session) fun here => ?_
  split
  · exact Within.seq (Within.tmux cfg ⟨"new-window", by decide, rfl⟩) fun o => Within.pure _
  · exact Within.seq (Within.tmux cfg ⟨"new-session", by decide, rfl⟩) fun o => Within.pure _

variable {cfg w}
variable {t : List (Exchange Exec.Answer)} {argv : List String} {acceptAny : Bool} {path : String}

/-- A request lists or makes sessions or windows, or looks at the screen. -/
abbrev Prepares : Exec.Request → Prop := Among ("capture-pane" :: makers)

theorem within_getReady : Within Prepares (w.getReady cfg).run := by
  refine Within.seq ((within_create cfg w).mono fun r hr => ?_) fun _ => ?_
  · exact hr.mono (List.subset_cons_self _ _)
  · exact Within.pollOn ⟨"capture-pane", List.mem_cons_self, rfl⟩ fun _ => Within.throw _

/-- A window is ready when the last look shows a prompt. -/
theorem of_getReady (h : Traces (w.getReady cfg).run t (some (.ok ()))) :
    ∃ before o, t = before ++ [⟨w.looking cfg, .ok o⟩] ∧ cfg.showsPrompt o = true := by
  rcases Traces.of_seq h with ⟨hv, -⟩ | ⟨e, hv, -⟩ | ⟨t₁, t₂, -, rfl, -, h⟩
  · cases hv
  · cases hv
  · obtain ⟨misses, -, ⟨a, o, _, rfl, hview, hcheck, -⟩ | ⟨a, e, -, -, hv⟩ |
      ⟨rep, t', -, -, -, hlate⟩⟩ := (Traces.of_pollOn h).of_some
    · obtain rfl : a = .ok o := hview
      refine ⟨t₁ ++ misses.map (Sigma.mk _), o, (List.append_assoc _ _ _).symm, ?_⟩
      simpa [Settings.showsPrompt] using hcheck
    · cases hv
    · cases (Traces.of_throw hlate).2

/-! ## Typing and waiting -/

theorem typeAndAwait_eq (argv : List String) :
    w.typeAndAwait cfg argv =
      cfg.tmux (keyArgs w.target (commandLine argv cfg.marker)) >>= fun _ =>
        cfg.tmux (keyArgs w.target "enter") >>= fun _ => w.awaitMarker cfg := by
  simp [typeAndAwait, sendKeys]

/-- A call of the multiplexer is broken off or fails, or another action follows it. -/
theorem of_call {β : Type} {args : List String} {f : Exec.Output → Action β}
    {v : Option (Except Error β)} (h : Traces (cfg.tmux args >>= f).run t v) :
    (∃ a : Except Exec.Error Exec.Output, t = [⟨call cfg args, a⟩] ∧
        (v = none ∨ ∃ e, a = .error e ∧ v = some (.error (.exec e)))) ∨
      ∃ o t', t = ⟨call cfg args, .ok o⟩ :: t' ∧ Traces (f o).run t' v := by
  rcases Traces.of_answer_seq (r := call cfg args) (fun a => a) h with
    hcall | ⟨a, o, t', rfl, ha, hcalled⟩
  · exact Or.inl hcall
  · obtain rfl : a = .ok o := ha
    exact Or.inr ⟨o, t', rfl, hcalled⟩

/-- Before a value comes of it, a call succeeds. -/
theorem of_call_ok {β : Type} {args : List String} {f : Exec.Output → Action β} {y : β}
    (h : Traces (cfg.tmux args >>= f).run t (some (.ok y))) :
    ∃ o t', t = ⟨call cfg args, .ok o⟩ :: t' ∧ Traces (f o).run t' (some (.ok y)) := by
  rcases of_call h with ⟨_, _, hcut | ⟨_, _, hfailed⟩⟩ | hcalled
  · cases hcut
  · cases hfailed
  · exact hcalled

/-- The line is typed, then it is entered, then the end marker is waited for. -/
theorem of_typeAndAwait {v : Option (Except Error Unit)}
    (h : Traces (w.typeAndAwait cfg argv).run t v) :
    (∃ a : Except Exec.Error Exec.Output, t = [⟨w.typing cfg argv, a⟩] ∧
        (v = none ∨ ∃ e, a = .error e ∧ v = some (.error (.exec e)))) ∨
      (∃ (o : Exec.Output) (a : Except Exec.Error Exec.Output),
        t = [⟨w.typing cfg argv, .ok o⟩, ⟨w.entering cfg, a⟩] ∧
          (v = none ∨ ∃ e, a = .error e ∧ v = some (.error (.exec e)))) ∨
        ∃ (o o' : Exec.Output) (looks : List (Exchange Exec.Answer)),
          t = ⟨w.typing cfg argv, .ok o⟩ :: ⟨w.entering cfg, .ok o'⟩ :: looks ∧
            Traces (w.awaitMarker cfg).run looks v := by
  rw [typeAndAwait_eq] at h
  rcases of_call h with hline | ⟨o, t', rfl, htyped⟩
  · exact Or.inl hline
  rcases of_call htyped with ⟨a, rfl, hv⟩ | ⟨o', looks, rfl, hentered⟩
  · exact Or.inr (Or.inl ⟨o, a, rfl, hv⟩)
  · exact Or.inr (Or.inr ⟨o, o', looks, rfl, hentered⟩)

theorem within_awaitMarker : Within (fun r => r = w.looking cfg) (w.awaitMarker cfg).run :=
  Within.pollOn rfl fun _ => Within.throw _

theorem within_typeAndAwait (argv : List String) :
    Within (fun r => subcommand? r = some "send-keys" ∨ r = w.looking cfg)
      (w.typeAndAwait cfg argv).run := by
  rw [typeAndAwait_eq]
  refine Within.seq (Within.tmux cfg (Or.inl rfl)) fun _ => ?_
  refine Within.seq (Within.tmux cfg (Or.inl rfl)) fun _ => ?_
  exact within_awaitMarker.mono fun _ => Or.inr

/-! ## Running into a file -/

theorem within_conclude (waited : Except Error Unit) (stopped : Except Error Exec.Output) :
    Within (fun r => r = .contents path)
      (w.conclude cfg path argv acceptAny waited stopped).run := by
  refine Within.seq (Within.ofExcept _) fun _ => Within.seq (Within.ofExcept _) fun _ => ?_
  refine Within.seq ?_ fun ls => Within.seq (Within.ofExcept _) fun c => Within.ofExcept _
  refine Within.pollOn rfl fun _ => Within.seq ?_ fun _ => Within.pure _
  exact Within.ask rfl fun _ => Within.done _

/-- Into a file: the pipe is opened, the line is typed, the pipe is closed, and the rest follows. -/
theorem of_runInto {v : Option (Except Error Exec.Output)}
    (h : Traces (w.runInto cfg path argv acceptAny).run t v) :
    (∃ a : Except Exec.Error Exec.Output, t = [⟨w.opening cfg path, a⟩] ∧
        (v = none ∨ ∃ e, a = .error e ∧ v = some (.error (.exec e)))) ∨
      (∃ (o : Exec.Output) (typed : List (Exchange Exec.Answer)),
        v = none ∧ t = ⟨w.opening cfg path, .ok o⟩ :: typed ∧
          Traces (w.typeAndAwait cfg argv).run typed none) ∨
        ∃ (o : Exec.Output) (typed : List (Exchange Exec.Answer)) (waited : Except Error Unit)
          (stopped : Except Exec.Error Exec.Output) (rest : List (Exchange Exec.Answer)),
          t = ⟨w.opening cfg path, .ok o⟩ :: (typed ++ ⟨w.closing cfg, stopped⟩ :: rest) ∧
            Traces (w.typeAndAwait cfg argv).run typed (some waited) ∧
            ((v = none ∧ rest = []) ∨
              Traces (w.conclude cfg path argv acceptAny waited (stopped.mapError .exec)).run
                rest v) := by
  rcases of_call h with hopening | ⟨o, t', rfl, hopened⟩
  · exact Or.inl hopening
  rcases Traces.of_attempt_seq hopened with ⟨rfl, htyped⟩ | ⟨typed, t'', waited, rfl, htyped, hclosing⟩
  · exact Or.inr (Or.inl ⟨o, t', rfl, rfl, htyped⟩)
  · obtain ⟨stopped, rest, rfl, hrest⟩ :=
      Traces.of_tried_seq (r := w.closing cfg) (fun a => a) hclosing
    exact Or.inr (Or.inr ⟨o, typed, waited, stopped, rest, rfl, htyped, hrest⟩)

/-- In a window that is ready: a file is made, the command runs into it, and it is removed. -/
theorem of_runPiped {v : Option (Except Error Exec.Output)}
    (h : Traces (w.runPiped cfg argv acceptAny).run t v) :
    (∃ a : Except Exec.Error String, t = [⟨.newFile, a⟩] ∧
        (v = none ∨ ∃ e, a = .error e ∧ v = some (.error (.exec e)))) ∨
      (∃ (path : String) (into : List (Exchange Exec.Answer)),
        v = none ∧ t = ⟨.newFile, .ok path⟩ :: into ∧
          Traces (w.runInto cfg path argv acceptAny).run into none) ∨
        ∃ (path : String) (into : List (Exchange Exec.Answer)) (result : Except Error Exec.Output)
          (removed : Except Exec.Error Unit),
          t = ⟨.newFile, .ok path⟩ :: (into ++ [⟨.removeFile path, removed⟩]) ∧
            Traces (w.runInto cfg path argv acceptAny).run into (some result) ∧
            (v = none ∨ v = some result) := by
  rcases Traces.of_answer_seq (r := .newFile) (fun a => a) h with
    hmaking | ⟨a, path, t', rfl, ha, hmade⟩
  · exact Or.inl hmaking
  obtain rfl : a = .ok path := ha
  rcases Traces.of_attempt_seq hmade with ⟨rfl, hinto⟩ | ⟨into, t'', result, rfl, hinto, hrest⟩
  · exact Or.inr (Or.inl ⟨path, t', rfl, rfl, hinto⟩)
  · obtain ⟨removed, rest, rfl, ⟨rfl, rfl⟩ | hend⟩ :=
      Traces.of_tried_seq (r := .removeFile path) (fun a => a) hrest
    · exact Or.inr (Or.inr ⟨path, into, result, removed, rfl, hinto, Or.inl rfl⟩)
    · obtain ⟨rfl, rfl⟩ := Traces.of_ofExcept hend
      exact Or.inr (Or.inr ⟨path, into, result, removed, rfl, hinto, Or.inr rfl⟩)

/-! ## A place that stands still -/

instance : (r : Exec.Request) → DecidableEq (Exec.Answer r)
  | .run _ => inferInstanceAs (DecidableEq (Except Exec.Error Exec.Output))
  | .newFile => inferInstanceAs (DecidableEq (Except Exec.Error String))
  | .contents _ => inferInstanceAs (DecidableEq (Except Exec.Error Bytes))
  | .removeFile _ => inferInstanceAs (DecidableEq (Except Exec.Error Unit))

/-- A place whose screen and file stay as they are, and what it answers when a file is removed. -/
def still (screen file : String) (removed : Except Exec.Error Unit) : Executor Exec.Answer Unit
  | .run _, s => { value := .ok { stdout := Text.Utf8.encode screen }, state := s }
  | .newFile, s => { value := .ok "/capture", state := s }
  | .contents _, s => { value := .ok (Text.Utf8.encode file), state := s }
  | .removeFile _, s => { value := removed, state := s }

end Window

end PaneRunner.Tmux
