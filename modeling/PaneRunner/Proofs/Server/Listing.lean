import PaneRunner.Proofs.Server.Requests
import PaneRunner.Proofs.Server.Windows
import PaneRunner.Proofs.Text.Numerals
import PaneRunner.Proofs.Text.Pieces
import PaneRunner.Proofs.Text.Utf8

/-
  Asking the server what is there. Of plain names the listings are read back as they were written
  (`listedNames_listing`, `lines_windows`), so an action that asks for a session or a window
  learns what the server has (`ends_session_exists?`, `ends_window_exists?`), and only the log of
  calls shows that it asked.
-/
namespace PaneRunner.Simulation

open Text Plan

/-- A session name that a listing and an argument vector keep apart from what stands around it. -/
structure PlainSession (name : String) : Prop where
  no_colon : ':' ∉ name.toList
  no_newline : '\n' ∉ name.toList
  no_flag : name ≠ "-n"

instance (name : String) : Decidable (PlainSession name) :=
  decidable_of_iff (':' ∉ name.toList ∧ '\n' ∉ name.toList ∧ name ≠ "-n")
    ⟨fun ⟨hc, hn, hf⟩ => ⟨hc, hn, hf⟩, fun h => ⟨h.no_colon, h.no_newline, h.no_flag⟩⟩

/-- A session name that is read off a listing as it is. -/
structure Listable (name : String) : Prop where
  no_colon : ':' ∉ name.toList
  no_newline : '\n' ∉ name.toList

theorem PlainSession.listable {name : String} (h : PlainSession name) : Listable name :=
  ⟨h.no_colon, h.no_newline⟩

/-- A window name that a listing keeps apart from what stands around it. -/
structure PlainWindow (name : String) : Prop where
  no_newline : '\n' ∉ name.toList
  no_return : name.toList.getLast? ≠ some '\r'

instance (name : String) : Decidable (PlainWindow name) :=
  decidable_of_iff ('\n' ∉ name.toList ∧ name.toList.getLast? ≠ some '\r')
    ⟨fun ⟨hn, hr⟩ => ⟨hn, hr⟩, fun h => ⟨h.no_newline, h.no_return⟩⟩

namespace Server

/-- The server has plain names only. -/
structure PlainNames (server : Server) : Prop where
  session : ∀ s ∈ server.sessions, PlainSession s.name
  window : ∀ s ∈ server.sessions, ∀ x ∈ s.windows, PlainWindow x.name

/-- The server has plain names only, and is running unless it has no session. -/
structure Plain (server : Server) : Prop where
  session : ∀ s ∈ server.sessions, PlainSession s.name
  window : ∀ s ∈ server.sessions, ∀ x ∈ s.windows, PlainWindow x.name
  running : server.running = true ∨ server.sessions = []

theorem Plain.names {server : Server} (h : server.Plain) : server.PlainNames := ⟨h.session, h.window⟩

theorem PlainNames.listable {server : Server} (h : server.PlainNames) :
    ∀ s ∈ server.sessions, Listable s.name :=
  fun s hs => (h.session s hs).listable

/-! ## Plain names stay plain -/

theorem PlainNames.onSession {server : Server} (h : server.PlainNames) {name : String}
    {f : Session → Session} (hname : ∀ s, (f s).name = s.name)
    (hwindows : ∀ s ∈ server.sessions, ∀ x ∈ (f s).windows, PlainWindow x.name) :
    (server.onSession name f).PlainNames where
  session s hs := by
    rcases mem_modifyFirst hs with hs | ⟨t, ht, rfl⟩
    · exact h.session s hs
    · rw [hname]
      exact h.session t ht
  window s hs x hx := by
    rcases mem_modifyFirst hs with hs | ⟨t, ht, rfl⟩
    · exact h.window s hs x hx
    · exact hwindows t ht x hx

theorem Plain.onSession {server : Server} (h : server.Plain) {name : String}
    {f : Session → Session} (hname : ∀ s, (f s).name = s.name)
    (hwindows : ∀ s ∈ server.sessions, ∀ x ∈ (f s).windows, PlainWindow x.name) :
    (server.onSession name f).Plain where
  session := (h.names.onSession hname hwindows).session
  window := (h.names.onSession hname hwindows).window
  running := h.running.imp_right fun hnone => by rw [Server.onSession, hnone, modifyFirst]

theorem Plain.onWindow {server : Server} (h : server.Plain) (address : String)
    {f : Window → Window} (hname : ∀ x, (f x).name = x.name) :
    (server.onWindow address f).Plain := by
  unfold Server.onWindow
  split
  · refine h.onSession (fun _ => rfl) fun s hs x hx => ?_
    rcases mem_modifyFirst hx with hx | ⟨y, hy, rfl⟩
    · exact h.window s hs x hx
    · rw [hname]
      exact h.window s hs y hy
  · exact h

/-! ## Listings -/

theorem newline_not_mem_ofNat (n : Nat) : '\n' ∉ (Decimal.ofNat n).toList := by
  intro h
  rw [Decimal.ofNat, String.toList_ofList] at h
  exact absurd (Decimal.isDigit_of_mem_digits h) (by decide)

theorem toList_sessionLine (s : Session) :
    (sessionLine s).toList = s.name.toList ++ ':' :: (' ' ::
      ((Decimal.ofNat s.windows.length).toList ++
        " windows (created Fri Oct 16 09:00:00 2026)".toList)) := by
  simp [sessionLine, String.toList_append]

theorem lines_listing {ss : List Session} (h : ∀ s ∈ ss, Listable s.name) :
    lines (unlines (ss.map sessionLine)) = ss.map sessionLine := by
  refine lines_unlines_self (fun l hl => ?_) fun l hl => ?_
  · obtain ⟨s, hs, rfl⟩ := List.mem_map.1 hl
    rw [toList_sessionLine]
    simp only [List.mem_append, List.mem_cons, not_or]
    exact ⟨(h s hs).no_newline, by decide, by decide, newline_not_mem_ofNat _, by decide⟩
  · obtain ⟨s, -, rfl⟩ := List.mem_map.1 hl
    have hlast : " windows (created Fri Oct 16 09:00:00 2026)".toList.getLast? = some ')' := by
      decide
    rw [sessionLine, String.toList_append, List.getLast?_append, hlast, Option.some_or]
    decide

theorem splitOnce?_sessionLine {s : Session} (h : ':' ∉ s.name.toList) :
    (splitOnce? (sessionLine s) ":").map Prod.fst = some s.name := by
  have hcut := cutAt?_singleton h (' ' ::
    ((Decimal.ofNat s.windows.length).toList ++
      " windows (created Fri Oct 16 09:00:00 2026)".toList))
  rw [← toList_sessionLine] at hcut
  rw [splitOnce?, show ":".toList = [':'] from rfl, hcut]
  simp

/-- The names in a listing of sessions. -/
theorem listedNames_listing {ss : List Session} (h : ∀ s ∈ ss, Listable s.name) :
    Tmux.Settings.listedNames { stdout := Utf8.encode (unlines (ss.map sessionLine)) } =
      ss.map Session.name := by
  rw [Tmux.Settings.listedNames, Exec.Output.stdoutLines, Exec.Output.stdoutText, Utf8.decode_encode,
    lines_listing h, List.filterMap_map, ← List.filterMap_eq_map]
  exact List.filterMap_congr fun s hs => splitOnce?_sessionLine (h s hs).no_colon

/-- The names in a listing of windows. -/
theorem lines_windows {xs : List Window} (h : ∀ x ∈ xs, PlainWindow x.name) :
    lines (unlines (xs.map Window.name)) = xs.map Window.name := by
  refine lines_unlines_self (fun l hl => ?_) fun l hl => ?_
  · obtain ⟨x, hx, rfl⟩ := List.mem_map.1 hl
    exact (h x hx).no_newline
  · obtain ⟨x, hx, rfl⟩ := List.mem_map.1 hl
    exact (h x hx).no_return

theorem stdoutLines_encode (text : String) :
    ({ stdout := Utf8.encode text } : Exec.Output).stdoutLines = lines text := by
  rw [Exec.Output.stdoutLines, Exec.Output.stdoutText, Utf8.decode_encode]

theorem contains_sessions (ss : List Session) (name : String) :
    (ss.map Session.name).contains name = (ss.find? fun s => s.name == name).isSome := by
  rw [Bool.eq_iff_iff, List.contains_iff_mem, List.find?_isSome, List.mem_map]
  simp only [beq_iff_eq]

theorem contains_windows (xs : List Window) (name : String) :
    (xs.map Window.name).contains name = (xs.find? fun x => x.name == name).isSome := by
  rw [Bool.eq_iff_iff, List.contains_iff_mem, List.find?_isSome, List.mem_map]
  simp only [beq_iff_eq]

/-! ## Questions -/

theorem Plain.withCalls {server : Server} (h : server.Plain) (calls : List (List String)) :
    (server.withCalls calls).Plain := ⟨h.session, h.window, h.running⟩

variable (cfg : Tmux.Settings) (w : Tmux.Window) {server : Server} (log : List Server)

theorem ends_sessionNames (hplain : server.Plain) (hfail : server.failures = []) :
    Ends (watching cfg w) cfg.sessionNames.run (server, log)
      (.ok (server.sessions.map Session.name)) (server.heard [cfg.binary, "ls"], log) := by
  by_cases hnone : server.sessions = []
  · have hrefused : (server.heard [cfg.binary, "ls"]).subcommand "ls" [] =
        (server.heard [cfg.binary, "ls"]).refuse "no server running on /tmp/tmux-1000/default\n" :=
      if_pos (by simp [heard, withCalls, hnone])
    have hsays : Tmux.Settings.saysNoServer "no server running on /tmp/tmux-1000/default\n" =
        true := by decide
    refine Ends.seq (ends_tmuxAny hfail (by simp) hrefused) ?_
    rw [if_neg (by decide), Exec.Output.stderrText, Utf8.decode_encode, hsays, if_pos rfl, hnone]
    exact Ends.pure _ _
  · have hrunning : server.running = true := hplain.running.resolve_right hnone
    have haccepted : (server.heard [cfg.binary, "ls"]).subcommand "ls" [] =
        (server.heard [cfg.binary, "ls"]).accept (unlines (server.sessions.map sessionLine)) :=
      if_neg (by simp [heard, withCalls, hnone, hrunning])
    refine Ends.seq (ends_tmuxAny hfail (by simp) haccepted) ?_
    rw [if_pos (show Exec.Output.success _ = true from rfl), listedNames_listing hplain.names.listable]
    exact Ends.pure _ _

/-- Asking whether a session is there. -/
theorem ends_session_exists? (hplain : server.Plain) (hfail : server.failures = [])
    (s : Tmux.Session) :
    Ends (watching cfg w) (s.exists? cfg).run (server, log)
      (.ok (server.session? s.name).isSome) (server.heard [cfg.binary, "ls"], log) := by
  refine Ends.seq (ends_sessionNames cfg w log hplain hfail) ?_
  rw [contains_sessions]
  exact Ends.pure _ _

/-- A session's windows are listed by name. -/
theorem subcommand_listWindows {server : Server} {name : String} {s : Session}
    (h : server.session? name = some s) :
    server.subcommand "list-windows" ["-t", name, "-F", "#\x7bwindow_name\x7d"] =
      server.accept (unlines (s.windows.map Window.name)) := by
  have htarget : flagValue? ["-t", name, "-F", "#\x7bwindow_name\x7d"] "-t" = some name := rfl
  change server.listWindows _ = _
  rw [listWindows, htarget, Option.getD_some, h]

/-- Asking for the windows of a session. -/
theorem ends_windowNames (hplain : server.Plain) (hfail : server.failures = [])
    (s : Tmux.Session) :
    ∃ calls, Ends (watching cfg w) (s.windowNames cfg).run (server, log)
      (.ok (((server.session? s.name).map Session.windows).getD [] |>.map Window.name))
      (server.withCalls calls, log) := by
  have hasked := ends_session_exists? cfg w log hplain hfail s
  cases hs : server.session? s.name with
  | none =>
    rw [hs] at hasked
    exact ⟨_, Ends.seq hasked (Ends.pure _ _)⟩
  | some x =>
    rw [hs] at hasked
    let args := ["-t", s.name, "-F", "#\x7bwindow_name\x7d"]
    let asked := (server.heard [cfg.binary, "ls"]).heard (cfg.binary :: "list-windows" :: args)
    have hfound : asked.session? s.name = some x := hs
    refine ⟨asked.calls, Ends.seq hasked ?_⟩
    rw [Option.isSome_some, if_pos rfl]
    refine Ends.seq (ends_tmux hfail (by simp) (subcommand_listWindows hfound)) ?_
    rw [accept, stdoutLines_encode, lines_windows (hplain.window x (List.mem_of_find?_eq_some hs))]
    exact Ends.pure _ _

theorem window?_target {w : Tmux.Window} (hs : ':' ∉ w.session.name.toList) :
    server.window? w.target =
      (server.session? w.session.name).bind fun s => s.windows.find? fun x => x.name == w.name :=
  window?_of_parse (parseAddress?_target w hs)

theorem name_of_window? {w : Tmux.Window} (hs : ':' ∉ w.session.name.toList) {x : Window}
    (hx : server.window? w.target = some x) : x.name = w.name := by
  rw [window?_target hs, Option.bind_eq_some_iff] at hx
  obtain ⟨s, -, hfound⟩ := hx
  simpa using List.find?_some hfound

/-- A window has a session. -/
theorem isSome_session?_of_window? {w : Tmux.Window} (hs : ':' ∉ w.session.name.toList)
    (hw : (server.window? w.target).isSome = true) :
    (server.session? w.session.name).isSome = true := by
  rw [window?_target hs] at hw
  cases hsession : server.session? w.session.name with
  | none =>
    rw [hsession] at hw
    cases hw
  | some x => rfl

/-- Asking whether a window is there. -/
theorem ends_window_exists? (hplain : server.Plain) (hfail : server.failures = [])
    (hs : ':' ∉ w.session.name.toList) :
    ∃ calls, Ends (watching cfg w) (w.exists? cfg).run (server, log)
      (.ok (server.window? w.target).isSome) (server.withCalls calls, log) := by
  obtain ⟨calls, hnames⟩ :=
    ends_windowNames cfg w log hplain hfail w.session
  refine ⟨calls, Ends.seq hnames ?_⟩
  have hfound : ((((server.session? w.session.name).map Session.windows).getD []).map
      Window.name).contains w.name = (server.window? w.target).isSome := by
    rw [contains_windows, window?_target hs]
    cases server.session? w.session.name <;> rfl
  rw [hfound]
  exact Ends.pure _ _

end Server

end PaneRunner.Simulation
