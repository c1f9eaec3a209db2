import PaneRunner.Tmux.Keys
import PaneRunner.Tmux.Session

/-
  Typing into a window, and reading what it shows. Nothing is remembered between two questions:
  each reads the window anew. A wait is a poll of the shown text.
-/
namespace PaneRunner.Tmux

namespace Action

/-- Poll a request until `check` finds a value in a good answer; a failed request ends the wait.
`gaveUp` is the error of a wait that found none. -/
def pollOn {α β : Type} (policy : Poll.Policy) (r : Exec.Request)
    (view : Exec.Answer r → Except Exec.Error α) (check : α → Option β)
    (gaveUp : Poll.Report → Action β) : Action β :=
  ExceptT.mk <|
    (Plan.pollUntil policy r fun a => ((view a).mapError Error.exec).map check).bind fun
      | .ok (.ready b) => .done (.ok b)
      | .ok (.exhausted rep) => (gaveUp rep).run
      | .error e => .done (.error e)

end Action

namespace Window

variable (cfg : Settings) (w : Window)

/-- Type the tokens into the window, one after another. -/
def sendKeys (tokens : List String) : Action Unit :=
  tokens.forM fun token => do
    let _ ← cfg.tmux (keyArgs w.target token)

/-- The invocation that prints the window's scrollback. -/
def capture : Exec.Invocation := { argv := cfg.binary :: captureArgs w.target }

/-- The scrollback as the multiplexer prints it. -/
def rawOutput : Action String := do
  let o ← Action.program (w.capture cfg)
  pure o.stdoutText

/-- What the window shows, as one text. -/
def shownOutput : Action String := do
  pure (shownText (← w.rawOutput cfg))

/-- What the window shows, line by line. -/
def lines : Action (List String) := do
  pure (shownLines (← w.rawOutput cfg))

/-- The last line shown. -/
def latestLine : Action String := do
  pure (fromBottom (← w.lines cfg) 0)

/-- The line above the last line shown. -/
def secondLatestLine : Action String := do
  pure (fromBottom (← w.lines cfg) 1)

/-- Poll the window's scrollback. -/
def pollScreen {β : Type} (policy : Poll.Policy) (check : String → Option β)
    (gaveUp : Poll.Report → Action β) : Action β :=
  Action.pollOn policy (.run (w.capture cfg)) (fun a => a) (fun o => check o.stdoutText) gaveUp

/-- Wait until the last line shown is an idle prompt. -/
def awaitPrompt : Action Unit :=
  w.pollScreen cfg cfg.promptReady
    (fun raw => if isPrompt (fromBottom (shownLines raw) 0) cfg.suffixes then some () else none)
    (fun rep => throw (.promptNotReady w.address rep.attempts))

end Window

end PaneRunner.Tmux
