import PaneRunner.Proofs.Lifecycle.Refinement

/-
  Which names work. A name is only asked not to be blank, but it has to come back from listings that
  are cut at colons and line ends, and a session named like a flag hides the name of its window. On a
  server without sessions every window can be made (`ends_create_fresh`), and it works exactly if its
  names come back (`works_iff`).
-/
namespace PaneRunner.Simulation

open Text Plan

namespace Server

/-- A name that is read off a listing of sessions is listable. -/
theorem listable_of_mem_readNames {ss : List Session} {name : String} (h : name ∈ readNames ss) :
    Listable name := by
  unfold readNames Tmux.Settings.listedNames at h
  rw [stdoutLines_encode, List.mem_filterMap] at h
  obtain ⟨l, hl, hname⟩ := h
  obtain ⟨⟨l', r'⟩, hsplit, rfl⟩ := Option.map_eq_some_iff.1 hname
  obtain ⟨⟨l, r⟩, hcut, hparts⟩ := Option.map_eq_some_iff.1 hsplit
  cases hparts
  have hline := newline_not_mem_of_mem_lines hl
  rw [append_of_cutAt? hcut, List.append_assoc, List.mem_append, not_or] at hline
  refine ⟨?_, ?_⟩
  · rw [String.toList_ofList]
    exact not_mem_of_cutAt? hcut
  · rw [String.toList_ofList]
    exact hline.1

/-- Of one session the listing is read as its name, if that is listable, and else as no such name. -/
theorem mem_readNames_singleton (s : Session) : s.name ∈ readNames [s] ↔ Listable s.name := by
  refine ⟨listable_of_mem_readNames, fun h => ?_⟩
  have hnames : readNames [s] = [s.name] := listedNames_listing (by simpa using h)
  rw [hnames]
  exact List.mem_singleton_self _

/-- Of one window the listing is read as its name, if that is plain, and else as no such name. -/
theorem mem_lines_singleton (name : String) :
    name ∈ lines (unlines [name]) ↔ PlainWindow name := by
  constructor
  · intro h
    have hnewline := newline_not_mem_of_mem_lines h
    refine ⟨hnewline, fun hreturn => ?_⟩
    rw [lines_unlines (by simpa using hnewline), List.map_singleton, List.mem_singleton] at h
    have hlength := congrArg String.length h
    rw [String.length_ofList, dropReturn, if_pos hreturn, List.length_dropLast,
      String.length_toList] at hlength
    have hsome : name.toList ≠ [] := by
      intro hnil
      rw [hnil] at hreturn
      cases hreturn
    have hpos := List.length_pos_iff.2 hsome
    rw [String.length_toList] at hpos
    omega
  · intro h
    rw [lines_unlines_self (by simpa using h.no_newline) (by simpa using h.no_return)]
    exact List.mem_singleton_self name

/-! ## A window that is made -/

variable (cfg : Tmux.Settings) (w : Tmux.Window)

/-- The name that a new session's window gets: the one asked for, unless the session's name is taken
for the flag in front of it. -/
def windowName : String := if w.session.name = "-n" then "-n" else w.name

/-- The session that is made for a window. -/
def madeFor : Session := { name := w.session.name, windows := [{ name := windowName w }] }

/-- The server after a window was made on one without sessions. -/
def founded : Server where
  sessions := [madeFor w]
  calls := [[cfg.binary, "new-session", "-d", "-s", w.session.name, "-n", w.name],
    [cfg.binary, "ls"], [cfg.binary, "ls"]]

theorem subcommand_newSession_empty {server : Server} (h : server.sessions = []) :
    server.subcommand "new-session" ["-d", "-s", w.session.name, "-n", w.name] =
      ({ server with running := true, sessions := [madeFor w] } : Server).accept "" := by
  have hsession : flagValue? ["-d", "-s", w.session.name, "-n", w.name] "-s" =
      some w.session.name := rfl
  have hname : flagValue? ["-d", "-s", w.session.name, "-n", w.name] "-n" = some (windowName w) := by
    unfold windowName
    by_cases h : w.session.name = "-n" <;> simp [flagValue?, h]
  change server.newSession ["-d", "-s", w.session.name, "-n", w.name] = _
  rw [newSession, hsession]
  dsimp only
  rw [hname, session?, h]
  rfl

/-- Every window can be made on a server without sessions. -/
theorem ends_create_fresh : Ends executor (w.create cfg).run {} (.ok ()) (founded cfg w) := by
  rw [Tmux.window_create_eq]
  refine (asks_lists _ _ _ rfl (by simp) _).ends ?_
  have hnone : ({} : Server).lists w.session.name = false := rfl
  rw [hnone, if_neg Bool.false_ne_true]
  refine (asks_lists _ _ _ rfl (by simp [heard, withCalls]) _).ends ?_
  have hstill : (({} : Server).heard [cfg.binary, "ls"]).lists w.session.name = false := rfl
  rw [hstill, if_neg Bool.false_ne_true]
  let called := ((({} : Server).heard [cfg.binary, "ls"]).heard [cfg.binary, "ls"]).heard
    [cfg.binary, "new-session", "-d", "-s", w.session.name, "-n", w.name]
  have hempty : called.sessions = [] := rfl
  have hmade := subcommand_newSession_empty w hempty
  exact (asks_tmux (f := fun _ => pure ()) rfl hmade).ends (Ends.pure () _)

/-! ## Finding it again -/

/-- The names come back from the listings. -/
structure Findable (w : Tmux.Window) : Prop where
  session : Listable w.session.name
  window : PlainWindow w.name
  flag : w.session.name = "-n" → w.name = "-n"

variable {w} in
theorem Findable.windowName_eq (h : Findable w) : windowName w = w.name := by
  unfold windowName
  split
  · rename_i hflag
    exact (h.flag hflag).symm
  · rfl

theorem mem_lines_windowName :
    w.name ∈ lines (unlines [windowName w]) ↔
      PlainWindow w.name ∧ (w.session.name = "-n" → w.name = "-n") := by
  unfold windowName
  by_cases hflag : w.session.name = "-n"
  · have hlines : lines (unlines ["-n"]) = ["-n"] := by decide
    rw [if_pos hflag, hlines, List.mem_singleton]
    refine ⟨fun h => ⟨?_, fun _ => h⟩, fun h => h.2 hflag⟩
    rw [h]
    decide
  · rw [if_neg hflag, mem_lines_singleton]
    exact ⟨fun h => ⟨h, fun h' => absurd h' hflag⟩, fun h => h.1⟩

/-- An action that first asks for the windows of the session goes on with names that hold the window's
exactly if its names come back. -/
theorem ends_windowNames_bind {α : Type} (f : List String → Tmux.Action α) :
    ∃ names calls, (w.name ∈ names ↔ Findable w) ∧
      ((founded cfg w).withCalls calls).changing = (founded cfg w).changing ∧
      ∀ r server', Ends executor (f names).run ((founded cfg w).withCalls calls) r server' →
        Ends executor (w.session.windowNames cfg >>= f).run (founded cfg w) r server' := by
  rw [Tmux.windowNames_bind]
  have hcalm : (founded cfg w).failures = [] := rfl
  have hasked := asks_sessionNames cfg (fun names =>
    if names.contains w.session.name then
      w.session.listing cfg >>= fun o => f o.stdoutLines
    else f []) hcalm
  have hls : ((founded cfg w).heard [cfg.binary, "ls"]).changing = (founded cfg w).changing :=
    changing_of_not_mem ls_not_mem_changers rfl
  have hname : (readNames (founded cfg w).listed).contains w.session.name = true ↔
      Listable w.session.name :=
    List.contains_iff_mem.trans (mem_readNames_singleton (madeFor w))
  by_cases hlistable : Listable w.session.name
  · have hsession : ((founded cfg w).heard [cfg.binary, "ls"]).session? w.session.name =
        some (madeFor w) := by
      simp [session?, founded, heard, withCalls, madeFor]
    have hlisted := asks_listing cfg f rfl hsession
    rw [if_pos (hname.2 hlistable)] at hasked
    refine ⟨_, _, ?_, (changing_of_not_mem listWindows_not_mem_changers rfl).trans hls,
      fun r server' hrest => hasked.ends (hlisted.ends hrest)⟩
    refine (mem_lines_windowName w).trans ?_
    exact ⟨fun h => ⟨hlistable, h.1, h.2⟩, fun h => ⟨h.window, h.flag⟩⟩
  · rw [if_neg fun h => hlistable (hname.1 h)] at hasked
    refine ⟨[], _, ?_, hls, fun r server' hrest => hasked.ends hrest⟩
    exact ⟨fun h => absurd h List.not_mem_nil, fun h => absurd h.session hlistable⟩

/-! ## Working with it -/

/-- What is expected of a window that was made: it is found and listed, it is not made twice, and when
it is removed it is gone. -/
structure Works (cfg : Tmux.Settings) (w : Tmux.Window) (server : Server) : Prop where
  found : server.Answered (w.exists? cfg) true
  session_listed : ∃ names, server.Answered cfg.sessionNames names ∧ w.session.name ∈ names
  window_listed : ∃ names, server.Answered (w.session.windowNames cfg) names ∧ w.name ∈ names
  made_once : ∃ server' : Server, Ends executor (w.create cfg).run server (.ok ()) server' ∧
    server'.changing = server.changing
  removed : ∃ server' : Server, Ends executor (w.delete cfg).run server (.ok ()) server' ∧
    server'.Answered (w.exists? cfg) false

theorem answered_window_exists :
    ∃ found, (found = true ↔ Findable w) ∧ (founded cfg w).Answered (w.exists? cfg) found := by
  obtain ⟨names, calls, hfound, hlog, hends⟩ :=
    ends_windowNames_bind cfg w fun names => pure (names.contains w.name)
  exact ⟨_, List.contains_iff_mem.trans hfound, calls, hends _ _ (Ends.pure _ _), hlog⟩

variable {cfg w}

/-- A question has one answer. -/
theorem Answered.unique {server : Server} {α : Type} {question : Tmux.Action α} {v v' : α}
    (h : server.Answered question v) (h' : server.Answered question v') : v = v' := by
  obtain ⟨_, hends, -⟩ := h
  obtain ⟨_, hends', -⟩ := h'
  exact Except.ok.inj (hends.unique hends').1

/-- A server without sessions has no window. -/
theorem answered_exists_of_empty {server : Server} (hempty : server.sessions = [])
    (hfail : server.failures = []) (w : Tmux.Window) : server.Answered (w.exists? cfg) false := by
  have hasked := asks_sessionNames cfg (fun names =>
    if names.contains w.session.name then
      w.session.listing cfg >>= fun o => pure (o.stdoutLines.contains w.name)
    else pure false) hfail
  have hnone : server.listed = [] := by
    unfold listed
    rw [hempty]
    exact ite_self _
  have hread : readNames [] = [] := by decide
  rw [hnone, hread, if_neg (by simp), ← Tmux.window_exists_bind, bind_pure] at hasked
  exact ⟨_, hasked.ends (Ends.pure _ _), changing_of_not_mem ls_not_mem_changers rfl⟩

/-- A window whose names come back works. -/
theorem works_of_findable (h : Findable w) : Works cfg w (founded cfg w) where
  found := by
    obtain ⟨found, hfound, hanswered⟩ := answered_window_exists cfg w
    rwa [hfound.2 h] at hanswered
  session_listed := by
    have hcalm : (founded cfg w).failures = [] := rfl
    have hasked := asks_sessionNames cfg pure hcalm
    rw [bind_pure] at hasked
    refine ⟨_, ⟨_, hasked.ends (Ends.pure _ _), ?_⟩, (mem_readNames_singleton (madeFor w)).2 h.session⟩
    exact changing_of_not_mem ls_not_mem_changers rfl
  window_listed := by
    obtain ⟨names, calls, hfound, hlog, hends⟩ := ends_windowNames_bind cfg w pure
    rw [bind_pure] at hends
    exact ⟨names, ⟨calls, hends _ _ (Ends.pure _ _), hlog⟩, hfound.2 h⟩
  made_once := by
    have hcreate : w.create cfg = w.session.windowNames cfg >>= fun names =>
        if names.contains w.name then pure () else w.making cfg := by
      rw [Tmux.windowNames_bind, Tmux.window_create_eq]
      rfl
    obtain ⟨names, calls, hfound, hlog, hends⟩ := ends_windowNames_bind cfg w
      fun names => if names.contains w.name then pure () else w.making cfg
    rw [if_pos (List.contains_iff_mem.2 (hfound.2 h)), ← hcreate] at hends
    exact ⟨_, hends _ _ (Ends.pure _ _), hlog⟩
  removed := by
    let killing : Tmux.Action Unit := cfg.tmux ["kill-window", "-t", w.target] >>= fun _ => pure ()
    have hdelete : w.delete cfg = w.session.windowNames cfg >>= fun names =>
        if names.contains w.name then killing else pure () := by
      rw [Tmux.windowNames_bind, Tmux.window_delete_eq]
      rfl
    obtain ⟨names, calls, hfound, -, hends⟩ := ends_windowNames_bind cfg w
      fun names => if names.contains w.name then killing else pure ()
    rw [if_pos (List.contains_iff_mem.2 (hfound.2 h)), ← hdelete] at hends
    have hsession : ((founded cfg w).withCalls calls).session? w.session.name = some (madeFor w) := by
      simp [session?, founded, withCalls, madeFor]
    have hname : w.name ∈ (madeFor w).windows.map Window.name := by
      rw [madeFor, h.windowName_eq]
      exact List.mem_singleton_self w.name
    have hlast : (withoutWindow (madeFor w) w.name).windows.isEmpty = true := by
      simp [withoutWindow, madeFor, h.windowName_eq]
    have hkilled : Asks executor killing.run ((founded cfg w).withCalls calls)
        (pure () : Tmux.Action Unit).run _ :=
      asks_killWindow rfl h.session.no_colon hsession hname
    rw [withoutWindowOf, if_pos hlast] at hkilled
    refine ⟨_, hends _ _ (hkilled.ends (Ends.pure _ _)), answered_exists_of_empty ?_ rfl w⟩
    simp [heard, withCalls, withoutSession, founded]

theorem works_iff {cfg : Tmux.Settings} {w : Tmux.Window} :
    Works cfg w (founded cfg w) ↔ Findable w := by
  refine ⟨fun h => ?_, works_of_findable⟩
  obtain ⟨found, hfound, hanswered⟩ := answered_window_exists cfg w
  exact hfound.1 (hanswered.unique h.found)

end Server

open Server

theorem names_of_ofNames {s n : String} {w : Tmux.Window} (h : Tmux.Window.ofNames s n = .ok w) :
    w.session.name = s ∧ w.name = n := by
  unfold Tmux.Window.ofNames Tmux.Session.ofName at h
  split at h
  · change Tmux.Session.window _ n = _ at h
    unfold Tmux.Session.window at h
    split at h
    · cases h
      exact ⟨rfl, rfl⟩
    · cases h
  · cases h

/-- On a server without sessions a window can be made under all names that are accepted. It works
exactly if the session's name holds neither a colon nor a newline, the window's name holds no newline
and does not end in a carriage return, and a session named like the flag for window names has a window
of that name. -/
theorem create_works_iff (cfg : Tmux.Settings) {s n : String} {w : Tmux.Window}
    (hw : Tmux.Window.ofNames s n = .ok w) :
    ∃ server : Server, Ends executor (w.create cfg).run {} (.ok ()) server ∧
      (Works cfg w server ↔
        ':' ∉ s.toList ∧ '\n' ∉ s.toList ∧ '\n' ∉ n.toList ∧ n.toList.getLast? ≠ some '\r' ∧
          (s = "-n" → n = "-n")) := by
  obtain ⟨rfl, rfl⟩ := names_of_ofNames hw
  refine ⟨founded cfg w, ends_create_fresh cfg w, works_iff.trans ?_⟩
  constructor
  · intro h
    exact ⟨h.session.no_colon, h.session.no_newline, h.window.no_newline, h.window.no_return, h.flag⟩
  · rintro ⟨hcolon, hnewline, hnewline', hreturn, hflag⟩
    exact ⟨⟨hcolon, hnewline⟩, ⟨hnewline', hreturn⟩, hflag⟩

/-- A session and a window that are both named like the flag work. -/
theorem create_works_iff_flag :
    let w : Tmux.Window := ⟨⟨"-n", by decide⟩, "-n", by decide⟩
    Tmux.Window.ofNames "-n" "-n" = .ok w ∧
      ∃ server : Server, Ends executor (w.create {}).run {} (.ok ()) server ∧ Works {} w server := by
  intro w
  have hw : Tmux.Window.ofNames "-n" "-n" = .ok w := by decide
  obtain ⟨server, hcreate, hworks⟩ := create_works_iff {} hw
  exact ⟨hw, server, hcreate, hworks.2 (by decide)⟩

/-- A session whose name holds a colon is accepted and made, and its window is not found. -/
theorem create_colon_not_found :
    ∃ w, Tmux.Window.ofNames "a:b" "w" = .ok w ∧
      ∃ server : Server, Ends executor (w.create {}).run {} (.ok ()) server ∧
        server.Answered (w.exists? {}) false ∧ ¬ Works {} w server := by
  let w : Tmux.Window := ⟨⟨"a:b", by decide⟩, "w", by decide⟩
  have hnot : ¬ Findable w := fun h => h.session.no_colon (by decide)
  obtain ⟨found, hfound, hanswered⟩ := answered_window_exists {} w
  have hlost : found = false := Bool.eq_false_iff.2 fun h => hnot (hfound.1 h)
  rw [hlost] at hanswered
  exact ⟨w, by decide, founded {} w, ends_create_fresh {} w, hanswered, fun h => hnot (works_iff.1 h)⟩

end PaneRunner.Simulation
