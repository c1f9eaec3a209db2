import PaneRunner.Proofs.Plan.Stepwise
import PaneRunner.Proofs.Server.Creation

/-
  The lifecycle of sessions and windows, question by question. A session is asked for with one
  listing, a window with a listing of the sessions and, if its session is listed, one of its windows
  (`session_exists_bind`, `window_exists_bind`); everything else that makes or removes something is one
  of these questions and at most one subcommand. `Asks` lemmas say what a server without failures on
  order answers. A stopped server lists no session, even if it has some: `Server.listed`.
-/
namespace PaneRunner

namespace Tmux

variable (cfg : Settings) {α : Type}

/-- What the output of a listing of sessions comes to. -/
def Settings.namesOf (o : Exec.Output) : Action (List String) :=
  if o.success then pure (Settings.listedNames o)
  else if Settings.saysNoServer o.stderrText then pure []
  else throw (.exec (.nonZeroExit (cfg.binary ++ " ls") o.code o.stdoutText o.stderrText))

/-- List the windows of a session. -/
def Session.listing (s : Session) : Action Exec.Output :=
  cfg.tmux ["list-windows", "-t", s.name, "-F", "#\x7bwindow_name\x7d"]

theorem session_exists_bind (s : Session) (f : Bool → Action α) :
    (s.exists? cfg >>= f) = cfg.sessionNames >>= fun names => f (names.contains s.name) := by
  unfold Session.exists?
  simp only [bind_assoc, pure_bind]

theorem windowNames_bind (s : Session) (f : List String → Action α) :
    (s.windowNames cfg >>= f) = cfg.sessionNames >>= fun names =>
      if names.contains s.name then s.listing cfg >>= fun o => f o.stdoutLines else f [] := by
  unfold Session.windowNames
  rw [session_exists_bind, bind_assoc]
  congr 1
  funext names
  split
  · simp only [bind_assoc, pure_bind]
    rfl
  · rw [pure_bind]

theorem window_exists_bind (w : Window) (f : Bool → Action α) :
    (w.exists? cfg >>= f) = cfg.sessionNames >>= fun names =>
      if names.contains w.session.name then
        w.session.listing cfg >>= fun o => f (o.stdoutLines.contains w.name)
      else f false := by
  unfold Window.exists?
  simp only [bind_assoc, pure_bind]
  exact windowNames_bind cfg w.session fun names => f (names.contains w.name)

theorem session_create_eq (s : Session) :
    s.create cfg = cfg.sessionNames >>= fun names =>
      if names.contains s.name then pure ()
      else cfg.tmux ["new-session", "-d", "-s", s.name] >>= fun _ => pure () :=
  session_exists_bind cfg s _

theorem session_delete_eq (s : Session) :
    s.delete cfg = cfg.sessionNames >>= fun names =>
      if names.contains s.name then
        cfg.tmux ["kill-session", "-t", s.name] >>= fun _ => pure ()
      else pure () :=
  session_exists_bind cfg s _

/-- Make a window that is not there. -/
def Window.making (w : Window) : Action Unit :=
  cfg.sessionNames >>= fun names =>
    if names.contains w.session.name then
      cfg.tmux ["new-window", "-d", "-t", w.session.name ++ ":", "-n", w.name] >>= fun _ => pure ()
    else cfg.tmux ["new-session", "-d", "-s", w.session.name, "-n", w.name] >>= fun _ => pure ()

theorem window_create_eq (w : Window) :
    w.create cfg = cfg.sessionNames >>= fun names =>
      if names.contains w.session.name then
        w.session.listing cfg >>= fun o =>
          if o.stdoutLines.contains w.name then pure () else w.making cfg
      else w.making cfg := by
  unfold Window.making
  rw [← session_exists_bind cfg w.session fun here =>
    if here then
      cfg.tmux ["new-window", "-d", "-t", w.session.name ++ ":", "-n", w.name] >>= fun _ => pure ()
    else cfg.tmux ["new-session", "-d", "-s", w.session.name, "-n", w.name] >>= fun _ => pure ()]
  exact window_exists_bind cfg w _

theorem window_delete_eq (w : Window) :
    w.delete cfg = cfg.sessionNames >>= fun names =>
      if names.contains w.session.name then
        w.session.listing cfg >>= fun o =>
          if o.stdoutLines.contains w.name then
            cfg.tmux ["kill-window", "-t", w.target] >>= fun _ => pure ()
          else pure ()
      else pure () :=
  window_exists_bind cfg w _

end Tmux

namespace Simulation.Server

open Text Plan

/-- The sessions that a listing shows. -/
def listed (server : Server) : List Session := if server.running then server.sessions else []

variable {cfg : Tmux.Settings} {server server' : Server} {α : Type}

/-- A subcommand that goes well. -/
theorem asks_call {name : String} {args : List String} {stdout : String}
    (hfail : server.failures = [])
    (hsub : (server.heard (cfg.binary :: name :: args)).subcommand name args =
      server'.accept stdout) :
    Asks executor (cfg.tmux (name :: args)).run server (.done (.ok (server'.accept stdout).1))
      server' := by
  refine ⟨_, _, rfl, ?_, ?_⟩
  · rw [executor_run hfail, hsub]
    rfl
  · rw [executor_run hfail, hsub]
    rfl

theorem asks_tmux {name : String} {args : List String} {f : Exec.Output → Tmux.Action α}
    {stdout : String} (hfail : server.failures = [])
    (hsub : (server.heard (cfg.binary :: name :: args)).subcommand name args =
      server'.accept stdout) :
    Asks executor (cfg.tmux (name :: args) >>= f).run server (f (server'.accept stdout).1).run
      server' :=
  (asks_call hfail hsub).bind (ExceptT.bindCont f)

/-- What comes of a subcommand that was refused. -/
def refusal (argv : List String) (stderr : String) : Tmux.Error :=
  .exec (.nonZeroExit (Text.join " " argv) 1 "" stderr)

/-- A subcommand that is refused. -/
theorem asks_tmux_refused {name : String} {args : List String} {f : Exec.Output → Tmux.Action α}
    {stderr : String} (hfail : server.failures = [])
    (hsub : (server.heard (cfg.binary :: name :: args)).subcommand name args =
      server'.refuse stderr) :
    Asks executor (cfg.tmux (name :: args) >>= f).run server
      (.done (.error (refusal (cfg.binary :: name :: args) stderr))) server' := by
  have hanswer : (executor (.run { argv := cfg.binary :: name :: args }) server).value =
      .error (.nonZeroExit (Text.join " " (cfg.binary :: name :: args)) 1 "" stderr) := by
    rw [executor_run hfail, hsub]
    change Except.error (Exec.Error.nonZeroExit _ 1 (Utf8.decode []) (Utf8.decode (Utf8.encode stderr)))
      = _
    rw [Utf8.decode_encode]
    rfl
  refine ⟨_, _, rfl, ?_, ?_⟩
  · rw [hanswer]
    rfl
  · rw [executor_run hfail, hsub]
    rfl

/-- A program whose exit code does not matter. -/
theorem asks_tmuxAny {name : String} {args : List String} {f : Exec.Output → Tmux.Action α}
    {o : Exec.Output} (hfail : server.failures = [])
    (hsub : (server.heard (cfg.binary :: name :: args)).subcommand name args = (o, server')) :
    Asks executor (cfg.tmuxAny (name :: args) >>= f).run server (f o).run server' := by
  refine ⟨_, _, rfl, ?_, ?_⟩
  · rw [executor_run hfail, hsub]
    rfl
  · rw [executor_run hfail, hsub]

/-- The names that are read off a listing of sessions. -/
def readNames (ss : List Session) : List String :=
  Tmux.Settings.listedNames { stdout := Utf8.encode (unlines (ss.map sessionLine)) }

theorem namesOf_listing (ss : List Session) :
    cfg.namesOf { stdout := Utf8.encode (unlines (ss.map sessionLine)) } = pure (readNames ss) := rfl

theorem namesOf_refused :
    cfg.namesOf { stderr := Utf8.encode "no server running on /tmp/tmux-1000/default\n", code := 1 } =
      pure (readNames []) := by
  have hsays : Tmux.Settings.saysNoServer "no server running on /tmp/tmux-1000/default\n" =
      true := by decide
  have hnone : readNames [] = [] := by decide
  unfold Tmux.Settings.namesOf
  rw [if_neg (by decide), Exec.Output.stderrText, Utf8.decode_encode, hsays, if_pos rfl, hnone]

variable (cfg) in
/-- The sessions are listed, those of a stopped server as none. -/
theorem asks_sessionNames (f : List String → Tmux.Action α) (hfail : server.failures = []) :
    Asks executor (cfg.sessionNames >>= f).run server (f (readNames server.listed)).run
      (server.heard [cfg.binary, "ls"]) := by
  have hsplit : cfg.sessionNames >>= f = cfg.tmuxAny ["ls"] >>= fun o => cfg.namesOf o >>= f :=
    LawfulMonad.bind_assoc (cfg.tmuxAny ["ls"]) cfg.namesOf f
  rw [hsplit]
  by_cases hshown : server.running = true ∧ server.sessions ≠ []
  · obtain ⟨hrunning, hsome⟩ := hshown
    have haccepted : (server.heard [cfg.binary, "ls"]).subcommand "ls" [] =
        (server.heard [cfg.binary, "ls"]).accept (unlines (server.sessions.map sessionLine)) :=
      if_neg (by simp [heard, withCalls, hsome, hrunning])
    have hasked := asks_tmuxAny (f := fun o => cfg.namesOf o >>= f) hfail haccepted
    rw [namesOf_listing, pure_bind] at hasked
    rw [listed, if_pos hrunning]
    exact hasked
  · have hrefused : (server.heard [cfg.binary, "ls"]).subcommand "ls" [] =
        (server.heard [cfg.binary, "ls"]).refuse "no server running on /tmp/tmux-1000/default\n" := by
      refine if_pos ?_
      by_contra h
      exact hshown (by simpa [heard, withCalls] using h)
    have hnone : server.listed = [] := by
      unfold listed
      split
      · rename_i hrunning
        by_contra hsome
        exact hshown ⟨hrunning, hsome⟩
      · rfl
    have hasked := asks_tmuxAny (f := fun o => cfg.namesOf o >>= f) hfail hrefused
    rw [namesOf_refused, pure_bind] at hasked
    rw [hnone]
    exact hasked

/-- The session is among those that a listing shows. -/
def lists (server : Server) (name : String) : Bool :=
  (server.listed.find? fun s => s.name == name).isSome

theorem readNames_listed (hlistable : ∀ s ∈ server.sessions, Listable s.name) :
    readNames server.listed = server.listed.map Session.name := by
  refine listedNames_listing fun s hs => hlistable s ?_
  unfold listed at hs
  split at hs
  · exact hs
  · exact absurd hs List.not_mem_nil

variable (cfg) in
/-- A session is looked for in a listing. -/
theorem asks_lists (a b : Tmux.Action α) (hfail : server.failures = [])
    (hlistable : ∀ s ∈ server.sessions, Listable s.name) (name : String) :
    Asks executor (cfg.sessionNames >>= fun names => if names.contains name then a else b).run server
      (if server.lists name then a else b).run (server.heard [cfg.binary, "ls"]) := by
  have hasked := asks_sessionNames cfg (fun names => if names.contains name then a else b) hfail
  rw [readNames_listed hlistable, contains_sessions] at hasked
  exact hasked

variable (cfg) in
/-- The windows of a session are listed. -/
theorem asks_listing {s : Tmux.Session} {x : Session} (f : List String → Tmux.Action α)
    (hfail : server.failures = []) (hs : server.session? s.name = some x) :
    Asks executor (s.listing cfg >>= fun o => f o.stdoutLines).run server
      (f (lines (unlines (x.windows.map Window.name)))).run
      (server.heard [cfg.binary, "list-windows", "-t", s.name, "-F", "#\x7bwindow_name\x7d"]) := by
  let called := server.heard
    [cfg.binary, "list-windows", "-t", s.name, "-F", "#\x7bwindow_name\x7d"]
  have hfound : called.session? s.name = some x := hs
  have hasked := asks_tmux (f := fun o => f o.stdoutLines) hfail (subcommand_listWindows hfound)
  rw [accept, stdoutLines_encode] at hasked
  exact hasked

/-- The windows of a session that is not there are not listed. -/
theorem asks_listing_missing {s : Tmux.Session} {f : Exec.Output → Tmux.Action α}
    (hfail : server.failures = []) (hnone : server.session? s.name = none) :
    Asks executor (s.listing cfg >>= f).run server
      (.done (.error (refusal
        [cfg.binary, "list-windows", "-t", s.name, "-F", "#\x7bwindow_name\x7d"]
        (noSession s.name))))
      (server.heard [cfg.binary, "list-windows", "-t", s.name, "-F", "#\x7bwindow_name\x7d"]) := by
  let args := ["-t", s.name, "-F", "#\x7bwindow_name\x7d"]
  let called := server.heard (cfg.binary :: "list-windows" :: args)
  have htarget : flagValue? args "-t" = some s.name := rfl
  have hmissing : called.session? s.name = none := hnone
  refine asks_tmux_refused hfail ?_
  change called.listWindows args = _
  rw [listWindows, htarget, Option.getD_some, hmissing]

variable {w : Tmux.Window} {f : Tmux.Action α}

/-- A window is added to a session that is there. -/
theorem asks_newWindow {x : Session} (hfail : server.failures = [])
    (hcolon : ':' ∉ w.session.name.toList) (hx : server.session? w.session.name = some x) :
    Asks executor
      (cfg.tmux ["new-window", "-d", "-t", w.session.name ++ ":", "-n", w.name] >>= fun _ => f).run
      server f.run
      ((server.onSession w.session.name (addWindow w.name)).heard
        [cfg.binary, "new-window", "-d", "-t", w.session.name ++ ":", "-n", w.name]) := by
  let called := server.heard
    [cfg.binary, "new-window", "-d", "-t", w.session.name ++ ":", "-n", w.name]
  have hfound : called.session? w.session.name = some x := hx
  exact asks_tmux (f := fun _ => f) hfail (subcommand_newWindow hcolon hfound)

/-- No window is added to a session that is not there. -/
theorem asks_newWindow_missing (hfail : server.failures = [])
    (hcolon : ':' ∉ w.session.name.toList) (hnone : server.session? w.session.name = none) :
    Asks executor
      (cfg.tmux ["new-window", "-d", "-t", w.session.name ++ ":", "-n", w.name] >>= fun _ => f).run
      server
      (.done (.error (refusal
        [cfg.binary, "new-window", "-d", "-t", w.session.name ++ ":", "-n", w.name]
        (noSession w.session.name))))
      (server.heard [cfg.binary, "new-window", "-d", "-t", w.session.name ++ ":", "-n", w.name]) := by
  let args := ["-d", "-t", w.session.name ++ ":", "-n", w.name]
  let called := server.heard (cfg.binary :: "new-window" :: args)
  have hname : ∃ name, flagValue? args "-n" = some name := by
    by_cases h : w.session.name ++ ":" = "-n" <;> simp [args, flagValue?, h]
  obtain ⟨name, hname⟩ := hname
  have htarget : flagValue? args "-t" = some (w.session.name ++ ":") := rfl
  have hmissing : called.session? w.session.name = none := hnone
  refine asks_tmux_refused (f := fun _ => f) hfail ?_
  change called.newWindow args = _
  rw [newWindow, htarget, hname, Option.getD_some, trimColons_colon hcolon, hmissing]

/-- A session is added that was not there. -/
theorem asks_newSession (hfail : server.failures = []) (hflag : w.session.name ≠ "-n")
    (hnone : server.session? w.session.name = none) :
    Asks executor
      (cfg.tmux ["new-session", "-d", "-s", w.session.name, "-n", w.name] >>= fun _ => f).run
      server f.run
      ((server.withSession w).heard
        [cfg.binary, "new-session", "-d", "-s", w.session.name, "-n", w.name]) := by
  let called := server.heard [cfg.binary, "new-session", "-d", "-s", w.session.name, "-n", w.name]
  have hmissing : called.session? w.session.name = none := hnone
  exact asks_tmux (f := fun _ => f) hfail (subcommand_newSession hflag hmissing)

/-- The window that a session is made with unless another is named. -/
def bash (s : Tmux.Session) : Tmux.Window := ⟨s, "bash", by decide⟩

theorem plainWindow_bash (s : Tmux.Session) : PlainWindow (bash s).name :=
  show PlainWindow "bash" by decide

theorem asks_newSession_bash {s : Tmux.Session} (hfail : server.failures = [])
    (hnone : server.session? s.name = none) :
    Asks executor (cfg.tmux ["new-session", "-d", "-s", s.name] >>= fun _ => f).run server f.run
      ((server.withSession (bash s)).heard [cfg.binary, "new-session", "-d", "-s", s.name]) := by
  let called := server.heard [cfg.binary, "new-session", "-d", "-s", s.name]
  have hsession : flagValue? ["-d", "-s", s.name] "-s" = some s.name := rfl
  have hname : flagValue? ["-d", "-s", s.name] "-n" = none := by
    by_cases h : s.name = "-n" <;> simp [flagValue?, h]
  have hmissing : called.session? s.name = none := hnone
  have hmade : called.subcommand "new-session" ["-d", "-s", s.name] =
      (called.withSession (bash s)).accept "" := by
    change called.newSession ["-d", "-s", s.name] = _
    rw [newSession, hsession]
    dsimp only
    rw [hmissing, hname]
    rfl
  exact asks_tmux (f := fun _ => f) hfail hmade

/-- A session that is there is not added again. -/
theorem asks_newSession_duplicate {x : Session} (hfail : server.failures = [])
    (hx : server.session? w.session.name = some x) :
    Asks executor
      (cfg.tmux ["new-session", "-d", "-s", w.session.name, "-n", w.name] >>= fun _ => f).run
      server
      (.done (.error (refusal [cfg.binary, "new-session", "-d", "-s", w.session.name, "-n", w.name]
        ("duplicate session: " ++ w.session.name ++ "\n"))))
      (server.heard [cfg.binary, "new-session", "-d", "-s", w.session.name, "-n", w.name]) := by
  let called := server.heard [cfg.binary, "new-session", "-d", "-s", w.session.name, "-n", w.name]
  have hsession : flagValue? ["-d", "-s", w.session.name, "-n", w.name] "-s" =
      some w.session.name := rfl
  have hfound : (called.session? w.session.name).isSome = true := by
    have h : called.session? w.session.name = some x := hx
    rw [h]
    rfl
  refine asks_tmux_refused (f := fun _ => f) hfail ?_
  change called.newSession ["-d", "-s", w.session.name, "-n", w.name] = _
  rw [newSession, hsession]
  exact if_pos hfound

/-! ## Removing -/

/-- The server without the sessions of a name. -/
def withoutSession (server : Server) (name : String) : Server :=
  { server with sessions := server.sessions.filter fun s => s.name != name }

/-- The server without a window of its session `s`, and without `s` if that was the last window. -/
def withoutWindowOf (server : Server) (s : Session) (w : String) : Server :=
  if (withoutWindow s w).windows.isEmpty then server.withoutSession s.name
  else server.onSession s.name fun _ => withoutWindow s w

theorem Plain.withoutSession (h : server.Plain) (name : String) : (server.withoutSession name).Plain where
  session s hs := h.session s (List.mem_filter.1 hs).1
  window s hs := h.window s (List.mem_filter.1 hs).1
  running := h.running.imp_right fun hnone => by rw [Server.withoutSession, hnone, List.filter_nil]

theorem Plain.withoutWindowOf (h : server.Plain) {x : Session} (hx : x ∈ server.sessions)
    (name : String) : (server.withoutWindowOf x name).Plain := by
  unfold Server.withoutWindowOf
  split
  · exact h.withoutSession x.name
  · refine ⟨fun s hs => ?_, fun s hs y hy => ?_, ?_⟩
    · rcases mem_modifyFirst hs with hs | ⟨t, -, rfl⟩
      · exact h.session s hs
      · exact h.session x hx
    · rcases mem_modifyFirst hs with hs | ⟨t, -, rfl⟩
      · exact h.window s hs y hy
      · exact h.window x hx y (List.mem_filter.1 hy).1
    · exact h.running.imp_right fun hnone => by rw [Server.onSession, hnone, modifyFirst]

/-- A session that is there is removed. -/
theorem asks_killSession {s : Tmux.Session} {x : Session} (hfail : server.failures = [])
    (hx : server.session? s.name = some x) :
    Asks executor (cfg.tmux ["kill-session", "-t", s.name] >>= fun _ => f).run server f.run
      ((server.withoutSession s.name).heard [cfg.binary, "kill-session", "-t", s.name]) := by
  let called := server.heard [cfg.binary, "kill-session", "-t", s.name]
  have htarget : flagValue? ["-t", s.name] "-t" = some s.name := rfl
  have hfound : called.session? s.name = some x := hx
  have hgone : called.subcommand "kill-session" ["-t", s.name] =
      (called.withoutSession s.name).accept "" := by
    change called.killSession ["-t", s.name] = _
    rw [killSession, htarget, Option.getD_some, hfound]
    rfl
  exact asks_tmux (f := fun _ => f) hfail hgone

/-- A window that is there is removed. -/
theorem asks_killWindow {x : Session} (hfail : server.failures = [])
    (hcolon : ':' ∉ w.session.name.toList) (hx : server.session? w.session.name = some x)
    (hw : w.name ∈ x.windows.map Window.name) :
    Asks executor (cfg.tmux ["kill-window", "-t", w.target] >>= fun _ => f).run server f.run
      ((server.withoutWindowOf x w.name).heard [cfg.binary, "kill-window", "-t", w.target]) := by
  let called := server.heard [cfg.binary, "kill-window", "-t", w.target]
  have htarget : flagValue? ["-t", w.target] "-t" = some w.target := rfl
  have hfound : called.session? w.session.name = some x := hx
  have hname : x.name = w.session.name := by simpa using List.find?_some hx
  have hfewer : (withoutWindow x w.name).windows.length ≠ x.windows.length := by
    obtain ⟨y, hy, hyw⟩ := List.mem_map.1 hw
    intro hlength
    have hkept := List.length_filter_eq_length_iff.1 hlength y hy
    simp [hyw] at hkept
  have hgone : called.subcommand "kill-window" ["-t", w.target] =
      (called.withoutWindowOf x w.name).accept "" := by
    change called.killWindow ["-t", w.target] = _
    rw [killWindow, htarget, Option.getD_some, parseAddress?_target w hcolon]
    dsimp only
    rw [hfound, withoutWindowOf, hname]
    dsimp only
    rw [if_neg hfewer]
    split <;> rfl
  have hheard : (called.withoutWindowOf x w.name) =
      (server.withoutWindowOf x w.name).heard [cfg.binary, "kill-window", "-t", w.target] := by
    unfold withoutWindowOf
    split <;> rfl
  rw [hheard] at hgone
  exact asks_tmux (f := fun _ => f) hfail hgone

end Simulation.Server

end PaneRunner
