import PaneRunner.Proofs.Server.Listing

/-
  Making a window. `withWindow` is the server after a window was asked for: with the window as it
  was if it was there, at the end of its session if only that was there, and else alone in a new
  session at the end. Making a window on plain names comes to exactly this (`ends_create`), and then
  the window is found (`window?_withWindow`).
-/
namespace PaneRunner.Simulation.Server

open Plan

/-- A session with a new window at its end. -/
def addWindow (name : String) (s : Session) : Session :=
  { s with windows := s.windows ++ [{ name }] }

/-- The server with a new session at its end that has one window. -/
def withSession (server : Server) (w : Tmux.Window) : Server :=
  { server with
    running := true
    sessions := server.sessions ++ [{ name := w.session.name, windows := [{ name := w.name }] }] }

/-- The server with a window, new unless it was there. -/
def withWindow (server : Server) (w : Tmux.Window) : Server :=
  if (server.window? w.target).isSome then server
  else if (server.session? w.session.name).isSome then
    server.onSession w.session.name (addWindow w.name)
  else server.withSession w

variable (cfg : Tmux.Settings) {w : Tmux.Window} {server : Server} (log : List Server)

theorem window?_withWindow (hs : ':' ∉ w.session.name.toList) :
    (server.withWindow w).window? w.target =
      some ((server.window? w.target).getD { name := w.name }) := by
  unfold withWindow
  cases hw : server.window? w.target with
  | some x => simp [hw]
  | none =>
    rw [if_neg (by simp), window?_target hs]
    rw [window?_target hs] at hw
    cases hsession : server.session? w.session.name with
    | some s =>
      rw [hsession, Option.bind_some] at hw
      rw [if_pos (by simp), session?_onSession (f := addWindow w.name) fun _ => rfl, hsession]
      simp [addWindow, List.find?_append, hw]
    | none =>
      rw [session?] at hsession
      rw [if_neg (by simp), session?, withSession, List.find?_append, hsession]
      simp

theorem PlainNames.withSession (h : server.PlainNames) (hs : PlainSession w.session.name)
    (hw : PlainWindow w.name) : (server.withSession w).PlainNames := by
  refine ⟨fun s hmem => ?_, fun s hmem x hx => ?_⟩
  · rcases List.mem_append.1 hmem with hmem | hmem
    · exact h.session s hmem
    · rw [List.mem_singleton.1 hmem]
      exact hs
  · rcases List.mem_append.1 hmem with hmem | hmem
    · exact h.window s hmem x hx
    · rw [List.mem_singleton.1 hmem] at hx
      rw [List.mem_singleton.1 hx]
      exact hw

theorem Plain.withSession (h : server.Plain) (hs : PlainSession w.session.name)
    (hw : PlainWindow w.name) : (server.withSession w).Plain :=
  ⟨(h.names.withSession hs hw).session, (h.names.withSession hs hw).window, Or.inl rfl⟩

theorem PlainNames.addWindow (h : server.PlainNames) {name : String} (hw : PlainWindow name) :
    ∀ s ∈ server.sessions, ∀ x ∈ (addWindow name s).windows, PlainWindow x.name := by
  intro s hs x hx
  rcases List.mem_append.1 hx with hx | hx
  · exact h.window s hs x hx
  · rw [List.mem_singleton.1 hx]
    exact hw

/-- A new window of plain names leaves the names plain. -/
theorem Plain.withWindow (h : server.Plain) (hs : PlainSession w.session.name)
    (hw : PlainWindow w.name) : (server.withWindow w).Plain := by
  unfold Server.withWindow
  split
  · exact h
  · split
    · exact h.onSession (fun _ => rfl) (h.names.addWindow hw)
    · exact h.withSession hs hw

theorem trimColons_colon {name : String} (h : ':' ∉ name.toList) :
    trimColons (name ++ ":") = name := by
  have hkept : name.toList.reverse.dropWhile (· == ':') = name.toList.reverse := by
    cases hr : name.toList.reverse with
    | nil => rfl
    | cons c cs =>
      have hc : c ∈ name.toList := List.mem_reverse.1 (hr ▸ List.mem_cons_self)
      rw [List.dropWhile_cons_of_neg]
      simpa using ne_of_mem_of_not_mem hc h
  rw [trimColons, ← String.toList_inj, String.toList_ofList, String.toList_append,
    List.reverse_append, show (":".toList).reverse = [':'] from rfl, List.singleton_append,
    List.dropWhile_cons_of_pos (by decide), hkept, List.reverse_reverse]

theorem flagValue?_fourth {a b c flag : String} (value : String) (ha : a ≠ flag) (hb : b ≠ flag)
    (hc : c ≠ flag) : flagValue? [a, b, c, flag, value] flag = some value := by
  simp [flagValue?, ha, hb, hc]

/-- A new window goes to the end of its session. -/
theorem subcommand_newWindow {s : Session} (hs : ':' ∉ w.session.name.toList)
    (h : server.session? w.session.name = some s) :
    server.subcommand "new-window" ["-d", "-t", w.session.name ++ ":", "-n", w.name] =
      (server.onSession w.session.name (addWindow w.name)).accept "" := by
  have hcolon : w.session.name ++ ":" ≠ "-n" := by
    intro e
    have hlast := congrArg (fun s => s.toList.getLast?) e
    simp at hlast
  have hname := flagValue?_fourth w.name (a := "-d") (b := "-t") (by decide) (by decide) hcolon
  have htarget : flagValue? ["-d", "-t", w.session.name ++ ":", "-n", w.name] "-t" =
      some (w.session.name ++ ":") := rfl
  change server.newWindow ["-d", "-t", w.session.name ++ ":", "-n", w.name] = _
  rw [newWindow, htarget, hname, Option.getD_some, trimColons_colon hs, h]
  rfl

/-- A new session has one window. -/
theorem subcommand_newSession (hflag : w.session.name ≠ "-n")
    (h : server.session? w.session.name = none) :
    server.subcommand "new-session" ["-d", "-s", w.session.name, "-n", w.name] =
      (server.withSession w).accept "" := by
  have hname := flagValue?_fourth w.name (a := "-d") (b := "-s") (by decide) (by decide) hflag
  have hsession : flagValue? ["-d", "-s", w.session.name, "-n", w.name] "-s" =
      some w.session.name := rfl
  change server.newSession ["-d", "-s", w.session.name, "-n", w.name] = _
  rw [newSession, hsession]
  dsimp only
  rw [h, hname]
  rfl

theorem ends_newWindow {s : Session} (hfail : server.failures = [])
    (hs : ':' ∉ w.session.name.toList) (h : server.session? w.session.name = some s) :
    ∃ calls o, Ends (watching cfg w)
      (cfg.tmux ["new-window", "-d", "-t", w.session.name ++ ":", "-n", w.name]).run (server, log)
      (.ok o) ((server.onSession w.session.name (addWindow w.name)).withCalls calls, log) := by
  let args := ["-d", "-t", w.session.name ++ ":", "-n", w.name]
  let called := server.heard (cfg.binary :: "new-window" :: args)
  have hfound : called.session? w.session.name = some s := h
  exact ⟨_, _, ends_tmux hfail (by simp) (subcommand_newWindow hs hfound)⟩

theorem ends_newSession (hfail : server.failures = []) (hflag : w.session.name ≠ "-n")
    (h : server.session? w.session.name = none) :
    ∃ calls o, Ends (watching cfg w)
      (cfg.tmux ["new-session", "-d", "-s", w.session.name, "-n", w.name]).run (server, log)
      (.ok o) ((server.withSession w).withCalls calls, log) := by
  let args := ["-d", "-s", w.session.name, "-n", w.name]
  let called := server.heard (cfg.binary :: "new-session" :: args)
  have hmissing : called.session? w.session.name = none := h
  exact ⟨_, _, ends_tmux hfail (by simp) (subcommand_newSession hflag hmissing)⟩

/-- Making a window. -/
theorem ends_create (hfail : server.failures = []) (hplain : server.Plain)
    (hs : PlainSession w.session.name) :
    ∃ calls, Ends (watching cfg w) (w.create cfg).run (server, log) (.ok ())
      ((server.withWindow w).withCalls calls, log) := by
  obtain ⟨calls, hasked⟩ :=
    ends_window_exists? cfg w log hplain hfail hs.no_colon
  by_cases hw : (server.window? w.target).isSome = true
  · refine ⟨calls, Ends.seq hasked ?_⟩
    rw [if_pos hw, withWindow, if_pos hw]
    exact Ends.pure _ _
  have hasked' := ends_session_exists? cfg w log (hplain.withCalls calls) hfail w.session
  have hasking : ((server.withCalls calls).heard [cfg.binary, "ls"]).failures = [] := hfail
  rw [withWindow, if_neg hw]
  cases hsession : server.session? w.session.name with
  | some s =>
    obtain ⟨calls', o, hmade⟩ := ends_newWindow cfg log hasking hs.no_colon hsession
    refine ⟨calls', Ends.seq hasked ?_⟩
    rw [if_neg hw]
    refine Ends.seq hasked' ?_
    rw [show (server.withCalls calls).session? w.session.name = some s from hsession,
      Option.isSome_some, if_pos rfl]
    exact Ends.seq hmade (Ends.pure _ _)
  | none =>
    obtain ⟨calls', o, hmade⟩ := ends_newSession cfg log hasking hs.no_flag hsession
    refine ⟨calls', Ends.seq hasked ?_⟩
    rw [if_neg hw]
    refine Ends.seq hasked' ?_
    rw [show (server.withCalls calls).session? w.session.name = none from hsession,
      Option.isSome_none, if_neg Bool.false_ne_true]
    exact Ends.seq hmade (Ends.pure _ _)

end PaneRunner.Simulation.Server
