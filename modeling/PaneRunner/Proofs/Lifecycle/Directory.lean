import PaneRunner.Proofs.Lifecycle.Procedures

/-
  The directory of a server: the names of its sessions in order, and with each the names of its
  windows. What subcommands do to a server is here said of the directory alone: a session or a window
  is added at the end (`directory_withSession`, `directory_onSession_addWindow`), a session goes
  (`directory_withoutSession`), or a window goes, with the session if it was the last
  (`directory_withoutWindowOf`).
-/
namespace PaneRunner.Simulation

open Text Plan

/-- What there is, in order: the sessions, and in each its windows. -/
abbrev Directory : Type := List (String × List String)

namespace Directory

def sessions (d : Directory) : List String := d.map Prod.fst

/-- The windows of a session; none if it is not there. -/
def windows (d : Directory) (s : String) : List String := (d.lookup s).getD []

/-- A session that is not there comes to the end, with one window. -/
def addSession (d : Directory) (s : String) : Directory :=
  if s ∈ d.sessions then d else d ++ [(s, ["bash"])]

def removeSession (d : Directory) (s : String) : Directory := d.filter fun entry => entry.1 != s

/-- A window that is not there comes to the end of its session, or alone to a new session. -/
def addWindow (s w : String) : Directory → Directory
  | [] => [(s, [w])]
  | (name, ws) :: d =>
    if name = s then (name, if w ∈ ws then ws else ws ++ [w]) :: d
    else (name, ws) :: addWindow s w d

/-- A window goes, and with the last window its session. -/
def removeWindow (s w : String) : Directory → Directory
  | [] => []
  | (name, ws) :: d =>
    if name = s then
      if w ∈ ws ∧ ws.filter (· != w) = [] then d else (name, ws.filter (· != w)) :: d
    else (name, ws) :: removeWindow s w d

variable {d : Directory} {s w : String}

theorem addWindow_of_not_mem (h : s ∉ d.sessions) (w : String) :
    addWindow s w d = d ++ [(s, [w])] := by
  induction d with
  | nil => rfl
  | cons entry d ih =>
    rw [sessions, List.map_cons, List.mem_cons, not_or] at h
    rw [addWindow, if_neg (Ne.symm h.1), ih h.2, List.cons_append]

theorem windows_cons (name : String) (ws : List String) (d : Directory) (s : String) :
    windows ((name, ws) :: d) s = if s = name then ws else d.windows s := by
  unfold windows
  rw [List.lookup_cons]
  by_cases h : s = name
  · rw [if_pos h, h, beq_self_eq_true]
    rfl
  · rw [if_neg h, beq_false_of_ne h]

theorem windows_of_not_mem (h : s ∉ d.sessions) : d.windows s = [] := by
  induction d with
  | nil => rfl
  | cons entry d ih =>
    rw [sessions, List.map_cons, List.mem_cons, not_or] at h
    rw [windows_cons, if_neg h.1, ih h.2]

/-- A window that is there is not added. -/
theorem addWindow_of_mem (h : w ∈ d.windows s) : addWindow s w d = d := by
  induction d with
  | nil => exact absurd h List.not_mem_nil
  | cons entry d ih =>
    obtain ⟨name, ws⟩ := entry
    rw [windows_cons] at h
    rw [addWindow]
    by_cases hname : name = s
    · rw [if_pos hname.symm] at h
      rw [if_pos hname, if_pos h]
    · rw [if_neg (Ne.symm hname)] at h
      rw [if_neg hname, ih h]

/-- A window that is not there does not go. -/
theorem removeWindow_of_not_mem (h : w ∉ d.windows s) : removeWindow s w d = d := by
  induction d with
  | nil => rfl
  | cons entry d ih =>
    obtain ⟨name, ws⟩ := entry
    rw [windows_cons] at h
    rw [removeWindow]
    by_cases hname : name = s
    · rw [if_pos hname.symm] at h
      have hkept : ws.filter (· != w) = ws := by
        refine List.filter_eq_self.2 fun x hx => ?_
        simpa using ne_of_mem_of_not_mem hx h
      rw [if_pos hname, if_neg fun hmem => h hmem.1, hkept]
    · rw [if_neg (Ne.symm hname)] at h
      rw [if_neg hname, ih h]

/-! ### What changes -/

theorem windows_addWindow (s w : String) (d : Directory) (s' : String) :
    (addWindow s w d).windows s' =
      if s' = s then if w ∈ d.windows s then d.windows s else d.windows s ++ [w]
      else d.windows s' := by
  induction d with
  | nil =>
    rw [addWindow, windows_cons]
    rfl
  | cons entry d ih =>
    obtain ⟨name, ws⟩ := entry
    rw [addWindow, windows_cons, windows_cons]
    by_cases hname : name = s
    · rw [if_pos hname, windows_cons, hname, if_pos rfl]
      split <;> rfl
    · rw [if_neg hname, windows_cons, ih, if_neg (Ne.symm hname)]
      by_cases hs : s' = name
      · rw [if_pos hs, if_pos hs, if_neg (hs ▸ hname)]
      · rw [if_neg hs, if_neg hs]

theorem mem_windows_addWindow_iff {s w s' w' : String} {d : Directory} :
    w' ∈ (addWindow s w d).windows s' ↔ w' ∈ d.windows s' ∨ s' = s ∧ w' = w := by
  rw [windows_addWindow]
  by_cases hs : s' = s
  · rw [if_pos hs, hs]
    split
    · rename_i hw
      exact ⟨Or.inl, fun h => h.elim id fun h => h.2 ▸ hw⟩
    · rw [List.mem_append, List.mem_singleton]
      exact or_congr_right ⟨fun h => ⟨rfl, h⟩, fun h => h.2⟩
  · rw [if_neg hs]
    exact ⟨Or.inl, fun h => h.elim id fun h => absurd h.1 hs⟩

/-- A window that was added is there. -/
theorem mem_windows_addWindow (s w : String) (d : Directory) : w ∈ (addWindow s w d).windows s :=
  mem_windows_addWindow_iff.2 (Or.inr ⟨rfl, rfl⟩)

/-- No window comes to be there twice. -/
theorem count_windows_addWindow_le {s w s' w' : String} {d : Directory}
    (h : (d.windows s').count w' ≤ 1) : ((addWindow s w d).windows s').count w' ≤ 1 := by
  rw [windows_addWindow]
  by_cases hs : s' = s
  · rw [if_pos hs, ← hs]
    split
    · exact h
    · rename_i hw
      rw [List.count_append]
      by_cases hww : w' = w
      · have hone : (d.windows s').count w' + [w].count w' = 1 := by
          rw [hww, List.count_eq_zero_of_not_mem hw, List.count_singleton_self]
        exact Nat.le_of_eq hone
      · rw [List.count_singleton, if_neg (by simpa using Ne.symm hww)]
        exact h
  · rw [if_neg hs]
    exact h

theorem sessions_addSession (s : String) (d : Directory) :
    (d.addSession s).sessions = if s ∈ d.sessions then d.sessions else d.sessions ++ [s] := by
  unfold addSession
  split
  · rfl
  · exact List.map_append

theorem sessions_addWindow (s w : String) (d : Directory) :
    (addWindow s w d).sessions = if s ∈ d.sessions then d.sessions else d.sessions ++ [s] := by
  by_cases hs : s ∈ d.sessions
  · rw [if_pos hs]
    induction d with
    | nil => exact absurd hs List.not_mem_nil
    | cons entry d ih =>
      obtain ⟨name, ws⟩ := entry
      rw [sessions, List.map_cons, List.mem_cons] at hs
      rw [addWindow]
      by_cases hname : name = s
      · rw [if_pos hname]
        rfl
      · rw [if_neg hname, sessions, List.map_cons]
        exact congrArg (List.cons name) (ih (hs.resolve_left (Ne.symm hname)))
  · rw [if_neg hs, addWindow_of_not_mem hs]
    exact List.map_append

theorem mem_sessions_addWindow_iff {s w s' : String} {d : Directory} :
    s' ∈ (addWindow s w d).sessions ↔ s' ∈ d.sessions ∨ s' = s := by
  rw [sessions_addWindow]
  split
  · rename_i hs
    exact ⟨Or.inl, fun h => h.elim id fun h => h ▸ hs⟩
  · rw [List.mem_append, List.mem_singleton]

theorem sessions_removeWindow (s w : String) (d : Directory) :
    (removeWindow s w d).sessions.Sublist d.sessions := by
  induction d with
  | nil => exact List.Sublist.slnil
  | cons entry d ih =>
    obtain ⟨name, ws⟩ := entry
    rw [removeWindow]
    split
    · split
      · exact List.sublist_cons_self name _
      · exact List.Sublist.refl _
    · exact ih.cons_cons name

/-- A window that was removed is not there. -/
theorem not_mem_windows_removeWindow (s w : String) {d : Directory} (hd : d.sessions.Nodup) :
    w ∉ (removeWindow s w d).windows s := by
  induction d with
  | nil => exact List.not_mem_nil
  | cons entry d ih =>
    obtain ⟨name, ws⟩ := entry
    rw [sessions, List.map_cons, List.nodup_cons] at hd
    rw [removeWindow]
    by_cases hname : name = s
    · rw [if_pos hname]
      split
      · rw [windows_of_not_mem (hname ▸ hd.1)]
        exact List.not_mem_nil
      · rw [windows_cons, if_pos hname.symm]
        simp
    · rw [if_neg hname, windows_cons, if_neg (Ne.symm hname)]
      exact ih hd.2

theorem removeSession_of_not_mem (h : s ∉ d.sessions) : d.removeSession s = d := by
  refine List.filter_eq_self.2 fun entry hentry => ?_
  simpa using ne_of_mem_of_not_mem (List.mem_map_of_mem hentry) h

end Directory

namespace Server

open Directory

/-- The entry of a session. -/
def entry (s : Session) : String × List String := (s.name, s.windows.map Window.name)

/-- The names of what a server has, in order. -/
def directory (server : Server) : Directory := server.sessions.map entry

variable {server : Server} {name : String} {ss : List Session} {s : Session} {w : String}

theorem sessions_directory (server : Server) :
    server.directory.sessions = server.sessions.map Session.name := by
  rw [Directory.sessions, directory, List.map_map]
  rfl

theorem windows_entries (ss : List Session) (name : String) :
    windows (ss.map entry) name =
      (((ss.find? fun s => s.name == name).map Session.windows).getD []).map Window.name := by
  induction ss with
  | nil => rfl
  | cons s ss ih =>
    rw [List.map_cons, entry, windows_cons]
    by_cases h : name = s.name
    · rw [if_pos h, List.find?_cons_of_pos (by simpa using h.symm)]
      rfl
    · rw [if_neg h, List.find?_cons_of_neg (by simpa using Ne.symm h), ih]

theorem windows_directory (server : Server) (name : String) :
    server.directory.windows name =
      (((server.session? name).map Session.windows).getD []).map Window.name :=
  windows_entries server.sessions name

theorem mem_sessions_iff (server : Server) (name : String) :
    name ∈ server.directory.sessions ↔ (server.session? name).isSome = true := by
  rw [sessions_directory, session?, ← contains_sessions, List.contains_iff_mem]

/-- A window is there when its name is. -/
theorem mem_windows_iff {w : Tmux.Window} (hcolon : ':' ∉ w.session.name.toList) :
    w.name ∈ server.directory.windows w.session.name ↔ (server.window? w.target).isSome = true := by
  rw [window?_target hcolon, windows_directory, ← List.contains_iff_mem, contains_windows]
  cases server.session? w.session.name <;> rfl

/-! ## What subcommands do -/

theorem directory_withSession (w : Tmux.Window) :
    (server.withSession w).directory = server.directory ++ [(w.session.name, [w.name])] :=
  List.map_append

theorem entries_addWindow (hs : ss.find? (fun s => s.name == name) = some s)
    (hw : w ∉ s.windows.map Window.name) :
    (modifyFirst (fun s => s.name == name) (Server.addWindow w) ss).map entry =
      Directory.addWindow name w (ss.map entry) := by
  induction ss with
  | nil => cases hs
  | cons t ss ih =>
    rw [modifyFirst, List.map_cons, entry, Directory.addWindow]
    by_cases h : t.name = name
    · have hfirst : (t.name == name) = true := by simpa using h
      rw [List.find?_cons_of_pos (by simpa using h), Option.some.injEq] at hs
      subst hs
      rw [if_pos hfirst, if_pos h, if_neg hw, List.map_cons, entry, Server.addWindow,
        List.map_append, List.map_singleton]
    · have hlater : ¬ (t.name == name) = true := by simpa using h
      rw [List.find?_cons_of_neg (by simpa using h)] at hs
      rw [if_neg hlater, if_neg h, List.map_cons, ih hs, entry]

/-- A window that is changed keeps its name. -/
theorem directory_onWindow (server : Server) (address : String) {f : Window → Window}
    (hf : ∀ x, (f x).name = x.name) : (server.onWindow address f).directory = server.directory := by
  cases hp : parseAddress? address with
  | none => simp only [Server.onWindow, hp]
  | some sw =>
    obtain ⟨s, w⟩ := sw
    rw [onWindow_of_parse hp]
    exact map_modifyFirst (f := inWindow w f) (g := entry)
      (fun x => Prod.ext rfl (map_modifyFirst hf x.windows)) server.sessions

/-- Whether the names are plain shows in the directory. -/
theorem plainNames_iff (server : Server) :
    server.PlainNames ↔ ∀ e ∈ server.directory, PlainSession e.1 ∧ ∀ n ∈ e.2, PlainWindow n := by
  constructor
  · intro h e he
    obtain ⟨s, hs, rfl⟩ := List.mem_map.1 he
    refine ⟨h.session s hs, fun n hn => ?_⟩
    obtain ⟨x, hx, rfl⟩ := List.mem_map.1 hn
    exact h.window s hs x hx
  · intro h
    exact ⟨fun s hs => (h _ (List.mem_map_of_mem hs)).1,
      fun s hs x hx => (h _ (List.mem_map_of_mem hs)).2 _ (List.mem_map_of_mem hx)⟩

/-- A window is added to a session that is there. -/
theorem directory_onSession_addWindow (hs : server.session? name = some s)
    (hw : w ∉ s.windows.map Window.name) :
    (server.onSession name (Server.addWindow w)).directory =
      Directory.addWindow name w server.directory :=
  entries_addWindow hs hw

theorem directory_withoutSession (server : Server) (name : String) :
    (server.withoutSession name).directory = server.directory.removeSession name := by
  rw [directory, withoutSession, removeSession, directory, List.filter_map]
  rfl

/-- A window goes to the end of its session, also if one of its name is there. -/
theorem windows_onSession_addWindow (hs : server.session? name = some s) (w name' : String) :
    (server.onSession name (Server.addWindow w)).directory.windows name' =
      if name' = name then server.directory.windows name ++ [w]
      else server.directory.windows name' := by
  rw [windows_directory, windows_directory, windows_directory]
  by_cases h : name' = name
  · rw [if_pos h, h, session?_onSession (f := Server.addWindow w) fun _ => rfl, hs]
    exact List.map_append
  · rw [if_neg h, session?_onSession_of_ne (f := Server.addWindow w) h fun _ => rfl]

theorem windows_withSession (w : Tmux.Window) (hnone : server.session? w.session.name = none)
    (name : String) :
    (server.withSession w).directory.windows name =
      if name = w.session.name then [w.name] else server.directory.windows name := by
  have hnot : w.session.name ∉ server.directory.sessions := by
    rw [mem_sessions_iff, hnone]
    exact Bool.false_ne_true
  rw [directory_withSession, ← addWindow_of_not_mem hnot, windows_addWindow, windows_of_not_mem hnot,
    if_neg List.not_mem_nil]
  rfl

/-- A window that was asked for. -/
theorem directory_withWindow {w : Tmux.Window} (hcolon : ':' ∉ w.session.name.toList) :
    (server.withWindow w).directory =
      Directory.addWindow w.session.name w.name server.directory := by
  unfold withWindow
  by_cases hw : (server.window? w.target).isSome = true
  · rw [if_pos hw]
    exact (addWindow_of_mem ((mem_windows_iff hcolon).2 hw)).symm
  rw [if_neg hw]
  rw [← mem_windows_iff hcolon, windows_directory] at hw
  cases hs : server.session? w.session.name with
  | some s =>
    rw [hs] at hw
    rw [Option.isSome_some, if_pos rfl]
    exact directory_onSession_addWindow hs hw
  | none =>
    have hnot : w.session.name ∉ server.directory.sessions := by
      rw [mem_sessions_iff, hs]
      exact Bool.false_ne_true
    rw [Option.isSome_none, if_neg Bool.false_ne_true, directory_withSession,
      addWindow_of_not_mem hnot]

theorem names_withoutWindow (s : Session) (w : String) :
    (withoutWindow s w).windows.map Window.name = (s.windows.map Window.name).filter (· != w) := by
  rw [withoutWindow, List.filter_map]
  rfl

/-- Only the last window takes its session along. -/
theorem entries_withoutWindow (hs : ss.find? (fun s => s.name == name) = some s)
    (hrest : (s.windows.map Window.name).filter (· != w) ≠ []) :
    (modifyFirst (fun s => s.name == name) (fun _ => withoutWindow s w) ss).map entry =
      Directory.removeWindow name w (ss.map entry) := by
  induction ss with
  | nil => cases hs
  | cons t ss ih =>
    rw [modifyFirst, List.map_cons, entry, Directory.removeWindow]
    by_cases h : t.name = name
    · have hfirst : (t.name == name) = true := by simpa using h
      rw [List.find?_cons_of_pos (by simpa using h), Option.some.injEq] at hs
      subst hs
      rw [if_pos hfirst, if_pos h, if_neg fun hlast => hrest hlast.2, List.map_cons, entry,
        names_withoutWindow]
      rfl
    · have hlater : ¬ (t.name == name) = true := by simpa using h
      rw [List.find?_cons_of_neg (by simpa using h)] at hs
      rw [if_neg hlater, if_neg h, List.map_cons, ih hs, entry]

/-- A session goes with its last window. -/
theorem removeWindow_last (hs : ss.find? (fun s => s.name == name) = some s)
    (hw : w ∈ s.windows.map Window.name)
    (hlast : (s.windows.map Window.name).filter (· != w) = [])
    (hnodup : (Directory.sessions (ss.map entry)).Nodup) :
    Directory.removeWindow name w (ss.map entry) = Directory.removeSession (ss.map entry) name := by
  induction ss with
  | nil => cases hs
  | cons t ss ih =>
    rw [Directory.sessions, List.map_cons, List.map_cons, List.nodup_cons] at hnodup
    rw [List.map_cons, entry, Directory.removeWindow, removeSession]
    by_cases h : t.name = name
    · rw [List.find?_cons_of_pos (by simpa using h), Option.some.injEq] at hs
      subst hs
      have hothers : removeSession (ss.map entry) name = ss.map entry :=
        removeSession_of_not_mem (h ▸ hnodup.1)
      rw [if_pos h, if_pos ⟨hw, hlast⟩, List.filter_cons_of_neg (by simpa using h), ← removeSession,
        hothers]
    · rw [List.find?_cons_of_neg (by simpa using h)] at hs
      rw [if_neg h, List.filter_cons_of_pos (by simpa using h), ih hs hnodup.2, removeSession]

theorem directory_withoutWindowOf (hs : server.session? name = some s)
    (hw : w ∈ s.windows.map Window.name) (hnodup : server.directory.sessions.Nodup) :
    (server.withoutWindowOf s w).directory = Directory.removeWindow name w server.directory := by
  have hname : s.name = name := by simpa using List.find?_some hs
  unfold withoutWindowOf
  rw [hname]
  by_cases hlast : (s.windows.map Window.name).filter (· != w) = []
  · have hempty : (withoutWindow s w).windows.isEmpty = true := by
      rw [← names_withoutWindow, List.map_eq_nil_iff] at hlast
      rw [hlast]
      rfl
    rw [if_pos hempty, directory_withoutSession]
    exact (removeWindow_last hs hw hlast hnodup).symm
  · have hsome : ¬ (withoutWindow s w).windows.isEmpty = true := by
      rw [List.isEmpty_iff, ← List.map_eq_nil_iff (f := Window.name), names_withoutWindow]
      exact hlast
    rw [if_neg hsome]
    exact entries_withoutWindow hs hlast

end Server

end PaneRunner.Simulation
