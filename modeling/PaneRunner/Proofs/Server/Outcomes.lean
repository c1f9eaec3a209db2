import PaneRunner.Simulation.Server

/-
  How a call can go. A call is refused, or was ordered to fail, and the server is as it was; or it
  is accepted, and the server has changed in one of a few ways (`Wrote`). A look at a pane is the
  one call that can be refused after something has changed. `went_command` says this once for all
  subcommands and all arguments, so what every write keeps is kept by every call.
-/
namespace PaneRunner.Simulation.Server

variable {server server' : Server}

/-- What a server is like after a call that was accepted. -/
inductive Wrote (server : Server) : Server → Prop where
  | nothing : Wrote server server
  /-- a session of a new name was made -/
  | session (s : Session) (hnew : server.session? s.name = none) (hwindows : s.windows ≠ []) :
      Wrote server { server with running := true, sessions := server.sessions ++ [s] }
  /-- sessions were taken away -/
  | without (p : Session → Bool) : Wrote server { server with sessions := server.sessions.filter p }
  /-- windows of a session were made or taken away, not all of them -/
  | windows (name : String) (f : Session → Session)
      (hname : ∀ s, server.session? name = some s → (f s).name = s.name)
      (hwindows : ∀ s, server.session? name = some s → (f s).windows ≠ []) :
      Wrote server (server.onSession name f)
  | window (address : String) (f : Window → Window) : Wrote server (server.onWindow address f)
  | pressed (address : String) (w : Window) (keys : List String) :
      Wrote server (server.press address w keys)
  | looked (address : String) : Wrote server (server.advance address)

/-- How a call can go: it is refused, it is accepted, a look finds no window, or it was ordered to
fail. -/
inductive Went (server : Server) : Exec.Output × Server → Prop where
  | refused (stderr : String) : Went server (server.refuse stderr)
  | accepted {server' : Server} (h : Wrote server server') (stdout : String) :
      Went server (server'.accept stdout)
  | missed {address : String} (hgone : (server.advance address).window? address = none)
      (stderr : String) : Went server ((server.advance address).refuse stderr)
  | failed (o : Exec.Output) (failures : List Failure) : Went server (o, { server with failures })

theorem went_newSession (args : List String) : Went server (server.newSession args) := by
  unfold newSession
  split
  · exact .refused _
  · split
    · exact .refused _
    · rename_i hnew
      exact .accepted (.session _ (Option.not_isSome_iff_eq_none.1 hnew) (List.cons_ne_nil _ _)) _

theorem went_newWindow (args : List String) : Went server (server.newWindow args) := by
  unfold newWindow
  dsimp only
  split
  · exact .refused _
  · exact .refused _
  · refine .accepted (.windows _ _ (fun s _ => ?_) fun s _ => ?_) _
    · rfl
    · exact List.append_ne_nil_of_right_ne_nil _ (List.cons_ne_nil _ _)

theorem went_killWindow (args : List String) : Went server (server.killWindow args) := by
  unfold killWindow
  dsimp only
  split
  · exact .refused _
  split
  · exact .refused _
  split
  · exact .refused _
  split
  · exact .accepted (.without _) _
  · -- the session keeps its name and some of its windows
    rename_i s hs _ hrest
    refine .accepted (.windows _ _ (fun s' hs' => ?_) fun _ _ hnil => hrest (List.isEmpty_iff.2 hnil)) _
    rw [hs] at hs'
    cases hs'
    rfl

theorem went_subcommand (name : String) (args : List String) :
    Went server (server.subcommand name args) := by
  unfold Server.subcommand
  split
  · exact .accepted .nothing _
  · unfold listSessions
    split
    · exact .refused _
    · exact .accepted .nothing _
  · exact went_newSession args
  · exact went_newWindow args
  · unfold killSession
    dsimp only
    split
    · exact .refused _
    · exact .accepted (.without _) _
  · exact went_killWindow args
  · unfold listWindows
    dsimp only
    split
    · exact .refused _
    · exact .accepted .nothing _
  · unfold sendKeys
    dsimp only
    split
    · exact .refused _
    · exact .accepted (.pressed _ _ _) _
  · unfold capturePane
    dsimp only
    split
    · exact .accepted (.looked _) _
    · rename_i hgone
      exact .missed hgone _
  · unfold pipePane
    dsimp only
    split
    · exact .refused _
    · exact .accepted (.window _ _) _
  · exact .refused _

/-- Every call goes one of these ways. -/
theorem went_command (argv : List String) : Went server (server.command argv) := by
  unfold Server.command
  split
  · exact .refused _
  · unfold takeFailure?
    split
    · rename_i htaken
      split at htaken
      · cases htaken
      · cases htaken
        exact .failed _ _
    · exact went_subcommand _ _

end PaneRunner.Simulation.Server
