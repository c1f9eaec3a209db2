import PaneRunner.Regex.Basic
import PaneRunner.Tmux.View

/-
  Matching what a window shows against a regular expression, once or until it matches.
-/
namespace PaneRunner.Tmux.Window

variable (cfg : Settings) (w : Window)

/-- Whether the shown output matches. -/
def isMatching (r : Regex) : Action Bool := do
  pure (r.isMatch (← w.shownOutput cfg))

/-- Wait until the shown output matches, `limit` at most. -/
def awaitMatch (r : Regex) (limit : Duration) : Action Unit :=
  w.pollScreen cfg (cfg.outputMatch limit)
    (fun raw => if r.isMatch (shownText raw) then some () else none)
    (fun rep => throw (.timeout w.address r.source rep.elapsed))

end PaneRunner.Tmux.Window
