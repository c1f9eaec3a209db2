import Mathlib.Data.List.Nodup
import PaneRunner.Proofs.Lifecycle.Directory

/-
  The lifecycle of sessions and windows refines the directory. `Operation` is what callers do to
  sessions and windows, and `Change` what that means for a directory: a deletion or a creation, or both
  in a row. However operations follow one another, each goes well, and what is listed before and after
  it is what the directory holds (`follows_directory`); and a subcommand that makes or removes something
  is issued exactly for the changes that change the directory (`Directory.issued`).
-/
namespace PaneRunner.Simulation

open Text Plan

/-- A change of a directory. -/
inductive Change where
  | addSession (s : String)
  | removeSession (s : String)
  | addWindow (s w : String)
  | removeWindow (s w : String)

namespace Change

def apply (d : Directory) : Change → Directory
  | .addSession s => d.addSession s
  | .removeSession s => d.removeSession s
  | .addWindow s w => Directory.addWindow s w d
  | .removeWindow s w => Directory.removeWindow s w d

/-- The subcommand that makes the change. A window comes with its session if that is not there. -/
def subcommand (d : Directory) : Change → String
  | .addSession _ => "new-session"
  | .removeSession _ => "kill-session"
  | .addWindow s _ => if s ∈ d.sessions then "new-window" else "new-session"
  | .removeWindow _ _ => "kill-window"

end Change

/-- The subcommands for changes one after another: none for what changes nothing. -/
def Directory.issued (d : Directory) : List Change → List String
  | [] => []
  | c :: cs => (if c.apply d = d then [] else [c.subcommand d]) ++ Directory.issued (c.apply d) cs

namespace Directory

variable {d : Directory} {c : Change}

theorem issued_of_eq (h : c.apply d = d) : d.issued [c] = [] := by
  rw [issued, if_pos h]
  rfl

theorem issued_of_ne (h : c.apply d ≠ d) : d.issued [c] = [c.subcommand d] := by
  rw [issued, if_neg h]
  rfl

theorem issued_append (d : Directory) (cs cs' : List Change) :
    d.issued (cs ++ cs') = d.issued cs ++ (cs.foldl Change.apply d).issued cs' := by
  induction cs generalizing d with
  | nil => rfl
  | cons c cs ih => rw [List.cons_append, issued, issued, ih, List.append_assoc, List.foldl_cons]

/-- No session is listed twice after a change. -/
theorem nodup_apply (h : d.sessions.Nodup) (c : Change) : (c.apply d).sessions.Nodup := by
  have hadded : ∀ s, (if s ∈ d.sessions then d.sessions else d.sessions ++ [s]).Nodup := by
    intro s
    split
    · exact h
    · rename_i hs
      rw [← List.concat_eq_append]
      exact h.concat hs
  cases c with
  | addSession s =>
    rw [Change.apply, sessions_addSession]
    exact hadded s
  | removeSession s => exact h.sublist (List.filter_sublist.map Prod.fst)
  | addWindow s w =>
    rw [Change.apply, sessions_addWindow]
    exact hadded s
  | removeWindow s w => exact h.sublist (sessions_removeWindow s w d)

end Directory

/-- What is done to a session or a window. -/
inductive Operation where
  | createSession (s : Tmux.Session)
  | deleteSession (s : Tmux.Session)
  | recreateSession (s : Tmux.Session)
  | createWindow (w : Tmux.Window)
  | deleteWindow (w : Tmux.Window)
  | recreateWindow (w : Tmux.Window)
  | deleteSessionOf (w : Tmux.Window)

namespace Operation

def action (cfg : Tmux.Settings) : Operation → Tmux.Action Unit
  | .createSession s => s.create cfg
  | .deleteSession s => s.delete cfg
  | .recreateSession s => s.recreate cfg
  | .createWindow w => w.create cfg
  | .deleteWindow w => w.delete cfg
  | .recreateWindow w => w.recreate cfg
  | .deleteSessionOf w => w.deleteSession cfg

/-- What the operation means for a directory. -/
def changes : Operation → List Change
  | .createSession s => [.addSession s.name]
  | .deleteSession s => [.removeSession s.name]
  | .recreateSession s => [.removeSession s.name, .addSession s.name]
  | .createWindow w => [.addWindow w.session.name w.name]
  | .deleteWindow w => [.removeWindow w.session.name w.name]
  | .recreateWindow w => [.removeWindow w.session.name w.name, .addWindow w.session.name w.name]
  | .deleteSessionOf w => [.removeSession w.session.name]

/-- The names in the operation are plain. -/
def Plain : Operation → Prop
  | .createSession s | .deleteSession s | .recreateSession s => PlainSession s.name
  | .createWindow w | .deleteWindow w | .recreateWindow w | .deleteSessionOf w =>
    PlainSession w.session.name ∧ PlainWindow w.name

instance : (op : Operation) → Decidable op.Plain
  | .createSession _ | .deleteSession _ | .recreateSession _ =>
    inferInstanceAs (Decidable (PlainSession _))
  | .createWindow _ | .deleteWindow _ | .recreateWindow _ | .deleteSessionOf _ =>
    inferInstanceAs (Decidable (PlainSession _ ∧ PlainWindow _))

end Operation

namespace Server

open Directory

/-- The subcommands that make or remove something. -/
def changers : List String := ["new-session", "new-window", "kill-session", "kill-window"]

/-- The calls that were to make or remove something, in the order of time. -/
def changing (server : Server) : List String :=
  (server.calls.reverse.filterMap fun argv => argv[1]?).filter fun sub => changers.contains sub

/-- A question is answered with `v`, and nothing but the log of calls shows that it was asked. -/
def Answered (server : Server) {α : Type} (question : Tmux.Action α) (v : α) : Prop :=
  ∃ calls, Ends executor question.run server (.ok v) (server.withCalls calls) ∧
    (server.withCalls calls).changing = server.changing

/-- What is listed is what the directory holds. -/
structure Answers (cfg : Tmux.Settings) (server : Server) (d : Directory) : Prop where
  sessionNames : server.Answered cfg.sessionNames d.sessions
  windowNames : ∀ s : Tmux.Session, server.Answered (s.windowNames cfg) (d.windows s.name)
  session_exists : ∀ s : Tmux.Session,
    server.Answered (s.exists? cfg) (decide (s.name ∈ d.sessions))
  window_exists : ∀ w : Tmux.Window,
    server.Answered (w.exists? cfg) (decide (w.name ∈ d.windows w.session.name))

/-- From the server on, the operations go well one after another, whatever is asked in between, and the
listings and the subcommands issued are those of the directory. -/
def Follows (cfg : Tmux.Settings) (server : Server) (d : Directory) : List Operation → Prop
  | [] => server.Answers cfg d
  | op :: ops => server.Answers cfg d ∧ ∀ calls, ∃ server' : Server,
      Ends executor (op.action cfg).run (server.withCalls calls) (.ok ()) server' ∧
        server'.changing = (server.withCalls calls).changing ++ d.issued op.changes ∧
        Follows cfg server' (op.changes.foldl Change.apply d) ops

/-! ## The log -/

variable {cfg : Tmux.Settings} {server server' : Server} {d : Directory}

theorem changing_concat {program sub : String} {args : List String} (hsub : sub ∈ changers)
    (hcalls : server'.calls = (program :: sub :: args) :: server.calls) :
    server'.changing = server.changing ++ [sub] := by
  unfold changing
  rw [hcalls, List.reverse_cons, List.filterMap_append, List.filter_append]
  congr 1
  exact List.filter_eq_self.2 (by simpa using hsub)

theorem changing_of_not_mem {program sub : String} {args : List String} (hsub : sub ∉ changers)
    (hcalls : server'.calls = (program :: sub :: args) :: server.calls) :
    server'.changing = server.changing := by
  unfold changing
  rw [hcalls, List.reverse_cons, List.filterMap_append, List.filter_append]
  have hnone : ([program :: sub :: args].filterMap fun argv => argv[1]?).filter
      (fun sub => changers.contains sub) = [] :=
    List.filter_eq_nil_iff.2 (by simpa using hsub)
  rw [hnone, List.append_nil]

/-! ## What a directory says of a server -/

/-- The server has what the directory holds, and nothing keeps it from answering so. -/
structure Tracks (server : Server) (d : Directory) : Prop where
  directory : server.directory = d
  nodup : d.sessions.Nodup
  plain : server.Plain
  failures : server.failures = []

theorem Tracks.withCalls (h : server.Tracks d) (calls : List (List String)) :
    (server.withCalls calls).Tracks d :=
  ⟨h.directory, h.nodup, h.plain.withCalls calls, h.failures⟩

theorem Tracks.heard (h : server.Tracks d) (argv : List String) : (server.heard argv).Tracks d :=
  h.withCalls _

theorem Tracks.listed (h : server.Tracks d) : server.listed = server.sessions := by
  unfold Server.listed
  split
  · rfl
  · rename_i hstopped
    exact (h.plain.running.resolve_left hstopped).symm

theorem Tracks.lists (h : server.Tracks d) (name : String) :
    server.lists name = decide (name ∈ d.sessions) := by
  rw [Server.lists, h.listed, ← h.directory, Bool.eq_iff_iff, decide_eq_true_iff, mem_sessions_iff,
    session?]

theorem Tracks.windows (h : server.Tracks d) {name : String} {x : Session}
    (hx : server.session? name = some x) : x.windows.map Window.name = d.windows name := by
  rw [← h.directory, windows_directory, hx]
  rfl

theorem Tracks.session? (h : server.Tracks d) {name : String} (hname : name ∈ d.sessions) :
    ∃ x, server.session? name = some x := by
  rw [← h.directory, mem_sessions_iff, Option.isSome_iff_exists] at hname
  exact hname

theorem Tracks.session?_eq_none (h : server.Tracks d) {name : String} (hname : name ∉ d.sessions) :
    server.session? name = none := by
  rw [← h.directory, mem_sessions_iff] at hname
  simpa using hname

/-! ## Questions -/

variable (cfg) in
/-- Sessions are looked for as the directory has them. -/
theorem Tracks.asks_lists (h : server.Tracks d) {α : Type} (a b : Tmux.Action α) (name : String) :
    Asks executor (cfg.sessionNames >>= fun names => if names.contains name then a else b).run server
      (if name ∈ d.sessions then a else b).run (server.heard [cfg.binary, "ls"]) := by
  have hasked := Server.asks_lists cfg a b h.failures h.plain.names.listable name
  rw [h.lists] at hasked
  simpa only [decide_eq_true_eq] using hasked

variable (cfg) in
/-- The windows of a session are listed as the directory has them. -/
theorem Tracks.asks_listing (h : server.Tracks d) {α : Type} (f : List String → Tmux.Action α)
    {s : Tmux.Session} (hs : s.name ∈ d.sessions) :
    Asks executor (s.listing cfg >>= fun o => f o.stdoutLines).run server (f (d.windows s.name)).run
      (server.heard [cfg.binary, "list-windows", "-t", s.name, "-F", "#\x7bwindow_name\x7d"]) := by
  obtain ⟨x, hx⟩ := h.session? hs
  have hasked := Server.asks_listing cfg f h.failures hx
  rw [lines_windows (h.plain.window x (List.mem_of_find?_eq_some hx)), h.windows hx] at hasked
  exact hasked

theorem ls_not_mem_changers : "ls" ∉ changers := by decide

theorem listWindows_not_mem_changers : "list-windows" ∉ changers := by decide

variable (cfg) in
theorem Tracks.answered_sessionNames (h : server.Tracks d) {α : Type} (f : List String → α) :
    server.Answered (cfg.sessionNames >>= fun names => pure (f names)) (f d.sessions) := by
  have hasked := asks_sessionNames cfg (fun names => pure (f names)) h.failures
  have hlisted : readNames server.listed = d.sessions := by
    rw [readNames_listed h.plain.names.listable, h.listed, ← h.directory, sessions_directory]
  rw [hlisted] at hasked
  exact ⟨_, hasked.ends (Ends.pure _ _), changing_of_not_mem ls_not_mem_changers rfl⟩

variable (cfg) in
theorem Tracks.answered_windowNames (h : server.Tracks d) {α : Type} (f : List String → α)
    (s : Tmux.Session) :
    server.Answered (s.windowNames cfg >>= fun names => pure (f names)) (f (d.windows s.name)) := by
  have hasked := h.asks_lists cfg
    (s.listing cfg >>= fun o => pure (f o.stdoutLines)) (pure (f [])) s.name
  have hls : (server.heard [cfg.binary, "ls"]).changing = server.changing :=
    changing_of_not_mem ls_not_mem_changers rfl
  rw [Tmux.windowNames_bind]
  by_cases hs : s.name ∈ d.sessions
  · have hlisted := (h.heard [cfg.binary, "ls"]).asks_listing cfg (fun names => pure (f names)) hs
    rw [if_pos hs] at hasked
    exact ⟨_, hasked.ends (hlisted.ends (Ends.pure _ _)),
      (changing_of_not_mem listWindows_not_mem_changers rfl).trans hls⟩
  · rw [if_neg hs] at hasked
    rw [windows_of_not_mem hs]
    exact ⟨_, hasked.ends (Ends.pure _ _), hls⟩

/-- A server answers as its directory does. -/
theorem Tracks.answers (h : server.Tracks d) : server.Answers cfg d where
  sessionNames := by
    have hasked := h.answered_sessionNames cfg id
    simpa only [id, bind_pure] using hasked
  windowNames s := by
    have hasked := h.answered_windowNames cfg id s
    simpa only [id, bind_pure] using hasked
  session_exists s := by
    have hasked := h.answered_sessionNames cfg fun names => names.contains s.name
    rw [List.contains_eq_mem] at hasked
    exact hasked
  window_exists w := by
    have hasked := h.answered_windowNames cfg (fun names => names.contains w.name) w.session
    rw [List.contains_eq_mem] at hasked
    exact hasked

/-! ## Changes -/

/-- The action goes well, makes the changes, and issues the subcommands for them. -/
def Makes (server : Server) (d : Directory) (a : Tmux.Action Unit) (cs : List Change) : Prop :=
  ∃ server' : Server, Ends executor a.run server (.ok ()) server' ∧
    server'.changing = server.changing ++ d.issued cs ∧ server'.Tracks (cs.foldl Change.apply d)

/-- Changes one after another. -/
theorem Makes.seq {a b : Tmux.Action Unit} {cs cs' : List Change} (h : Makes server d a cs)
    (h' : ∀ server' : Server, server'.Tracks (cs.foldl Change.apply d) →
      Makes server' (cs.foldl Change.apply d) b cs') :
    Makes server d (a >>= fun _ => b) (cs ++ cs') := by
  obtain ⟨server', hends, hissued, htracks⟩ := h
  obtain ⟨server'', hends', hissued', htracks'⟩ := h' server' htracks
  refine ⟨server'', Ends.seq hends hends', ?_, ?_⟩
  · rw [hissued', hissued, issued_append, List.append_assoc]
  · rw [List.foldl_append]
    exact htracks'

/-- A question first. -/
theorem Makes.of_asks {a b : Tmux.Action Unit} {cs : List Change}
    (h : Asks executor a.run server b.run server') (hlog : server'.changing = server.changing)
    (hmakes : Makes server' d b cs) : Makes server d a cs := by
  obtain ⟨server'', hends, hissued, htracks⟩ := hmakes
  exact ⟨server'', h.ends hends, by rw [hissued, hlog], htracks⟩

/-- A change that is none needs no subcommand. -/
theorem Makes.pure (h : server.Tracks d) {c : Change} (hc : c.apply d = d) :
    Makes server d (Pure.pure ()) [c] := by
  refine ⟨server, Ends.pure () server, ?_, ?_⟩
  · rw [issued_of_eq hc, List.append_nil]
  · rw [List.foldl_cons, hc]
    exact h

/-- A change by a subcommand. -/
theorem Makes.of_subcommand (sub : String) (h : server.Tracks d) {a : Tmux.Action Unit} {c : Change}
    {program : String} {args : List String} (hc : c.apply d ≠ d) (hsub : c.subcommand d = sub)
    (hmem : sub ∈ changers)
    (hasked : Asks executor a.run server (Pure.pure () : Tmux.Action Unit).run
      (server'.heard (program :: sub :: args)))
    (hcalls : server'.calls = server.calls) (hdirectory : server'.directory = c.apply d)
    (hplain : server'.Plain) (hfail : server'.failures = []) : Makes server d a [c] := by
  refine ⟨_, hasked.ends (Ends.pure () _), ?_, hdirectory, nodup_apply h.nodup c,
    hplain.withCalls _, hfail⟩
  have hlog : (server'.heard (program :: sub :: args)).calls =
      (program :: sub :: args) :: server.calls := by
    rw [← hcalls]
    rfl
  rw [issued_of_ne hc, hsub, changing_concat hmem hlog]

/-- A session is looked for, and then what is to be done is done. -/
theorem Makes.of_lists (h : server.Tracks d) {a b : Tmux.Action Unit} {name : String}
    {cs : List Change}
    (ha : name ∈ d.sessions → Makes (server.heard [cfg.binary, "ls"]) d a cs)
    (hb : name ∉ d.sessions → Makes (server.heard [cfg.binary, "ls"]) d b cs) :
    Makes server d (cfg.sessionNames >>= fun names => if names.contains name then a else b) cs := by
  refine Makes.of_asks (h.asks_lists cfg a b name) (changing_of_not_mem ls_not_mem_changers rfl) ?_
  by_cases hs : name ∈ d.sessions
  · rw [if_pos hs]
    exact ha hs
  · rw [if_neg hs]
    exact hb hs

/-- A window is looked for in its session, and then what is to be done is done. -/
theorem Makes.of_listing (h : server.Tracks d) {s : Tmux.Session} (hs : s.name ∈ d.sessions)
    {a b : Tmux.Action Unit} {name : String} {cs : List Change}
    (ha : ∀ server' : Server, server'.Tracks d → name ∈ d.windows s.name → Makes server' d a cs)
    (hb : ∀ server' : Server, server'.Tracks d → name ∉ d.windows s.name → Makes server' d b cs) :
    Makes server d
      (s.listing cfg >>= fun o => if o.stdoutLines.contains name then a else b) cs := by
  refine Makes.of_asks (h.asks_listing cfg (fun names => if names.contains name then a else b) hs)
    (changing_of_not_mem listWindows_not_mem_changers rfl) ?_
  by_cases hname : name ∈ d.windows s.name
  · rw [if_pos (List.contains_iff_mem.2 hname)]
    exact ha _ (h.heard _) hname
  · rw [if_neg fun hmem => hname (List.contains_iff_mem.1 hmem)]
    exact hb _ (h.heard _) hname

/-! ## Operations -/

theorem makes_createSession (h : server.Tracks d) {s : Tmux.Session} (hs : PlainSession s.name) :
    Makes server d (s.create cfg) [.addSession s.name] := by
  rw [Tmux.session_create_eq]
  refine Makes.of_lists h (fun hmem => Makes.pure (h.heard _) (if_pos hmem)) fun hnot => ?_
  have hheard := h.heard [cfg.binary, "ls"]
  have happly : d.addSession s.name = d ++ [(s.name, ["bash"])] := if_neg hnot
  refine Makes.of_subcommand "new-session" hheard (c := .addSession s.name) ?_ rfl (by decide)
    (asks_newSession_bash hheard.failures (hheard.session?_eq_none hnot)) rfl ?_ ?_ h.failures
  · rw [Change.apply, happly]
    simp
  · rw [directory_withSession, hheard.directory]
    exact happly.symm
  · exact hheard.plain.withSession hs (plainWindow_bash s)

theorem makes_deleteSession (h : server.Tracks d) (s : Tmux.Session) :
    Makes server d (s.delete cfg) [.removeSession s.name] := by
  rw [Tmux.session_delete_eq]
  refine Makes.of_lists h (fun hmem => ?_) fun hnot =>
    Makes.pure (h.heard _) (removeSession_of_not_mem hnot)
  have hheard := h.heard [cfg.binary, "ls"]
  obtain ⟨x, hx⟩ := hheard.session? hmem
  refine Makes.of_subcommand "kill-session" hheard (c := .removeSession s.name) ?_ rfl
    (by decide) (asks_killSession hheard.failures hx) rfl ?_ (hheard.plain.withoutSession s.name)
    h.failures
  · intro hsame
    obtain ⟨entry, hentry, hname⟩ := List.mem_map.1 hmem
    have hkept := List.filter_eq_self.1 hsame entry hentry
    simp [hname] at hkept
  · rw [directory_withoutSession, hheard.directory]
    rfl

variable {w : Tmux.Window}

theorem addWindow_ne (hw : w.name ∉ d.windows w.session.name) :
    (Change.addWindow w.session.name w.name).apply d ≠ d := by
  intro hsame
  have hmem := mem_windows_addWindow w.session.name w.name d
  rw [Change.apply] at hsame
  rw [hsame] at hmem
  exact hw hmem

theorem makes_making (h : server.Tracks d) (hs : PlainSession w.session.name)
    (hname : PlainWindow w.name) (hw : w.name ∉ d.windows w.session.name) :
    Makes server d (w.making cfg) [.addWindow w.session.name w.name] := by
  have hheard := h.heard [cfg.binary, "ls"]
  refine Makes.of_lists h (fun hmem => ?_) fun hnot => ?_
  · obtain ⟨x, hx⟩ := hheard.session? hmem
    refine Makes.of_subcommand "new-window" hheard (addWindow_ne hw) (if_pos hmem)
      (by decide) (asks_newWindow hheard.failures hs.no_colon hx) rfl ?_
      (hheard.plain.onSession (fun _ => rfl) (hheard.plain.names.addWindow hname)) h.failures
    rw [← hheard.windows hx] at hw
    rw [directory_onSession_addWindow hx hw, hheard.directory]
    rfl
  · refine Makes.of_subcommand "new-session" hheard (addWindow_ne hw) (if_neg hnot)
      (by decide) (asks_newSession hheard.failures hs.no_flag (hheard.session?_eq_none hnot)) rfl ?_
      (hheard.plain.withSession hs hname) h.failures
    rw [directory_withSession, hheard.directory]
    exact (addWindow_of_not_mem hnot w.name).symm

theorem makes_createWindow (h : server.Tracks d) (hs : PlainSession w.session.name)
    (hname : PlainWindow w.name) :
    Makes server d (w.create cfg) [.addWindow w.session.name w.name] := by
  rw [Tmux.window_create_eq]
  refine Makes.of_lists h (fun hmem => ?_) fun hnot => ?_
  · refine Makes.of_listing (h.heard _) hmem (fun _ h' hw => ?_) fun _ h' hw => ?_
    · exact Makes.pure h' (addWindow_of_mem hw)
    · exact makes_making h' hs hname hw
  · refine makes_making (h.heard _) hs hname ?_
    rw [windows_of_not_mem hnot]
    exact List.not_mem_nil

theorem makes_deleteWindow (h : server.Tracks d) (hs : PlainSession w.session.name) :
    Makes server d (w.delete cfg) [.removeWindow w.session.name w.name] := by
  rw [Tmux.window_delete_eq]
  refine Makes.of_lists h (fun hmem => ?_) fun hnot => ?_
  · refine Makes.of_listing (h.heard _) hmem (fun server' h' hw => ?_) fun _ h' hw => ?_
    · obtain ⟨x, hx⟩ := h'.session? hmem
      have hgone : w.name ∈ x.windows.map Window.name := by rwa [h'.windows hx]
      refine Makes.of_subcommand "kill-window" h'
        (c := .removeWindow w.session.name w.name) ?_ rfl (by decide)
        (asks_killWindow h'.failures hs.no_colon hx hgone) ?_ ?_
        (h'.plain.withoutWindowOf (List.mem_of_find?_eq_some hx) w.name) ?_
      · intro hsame
        have hnot := not_mem_windows_removeWindow w.session.name w.name h'.nodup
        rw [Change.apply] at hsame
        rw [hsame] at hnot
        exact hnot hw
      · unfold withoutWindowOf
        split <;> rfl
      · rw [directory_withoutWindowOf hx hgone (h'.directory.symm ▸ h'.nodup), h'.directory]
        rfl
      · unfold withoutWindowOf
        split
        · exact h'.failures
        · exact h'.failures
    · exact Makes.pure h' (removeWindow_of_not_mem hw)
  · refine Makes.pure (h.heard _) (removeWindow_of_not_mem ?_)
    rw [windows_of_not_mem hnot]
    exact List.not_mem_nil

variable (cfg) in
/-- Every operation makes its changes. -/
theorem makes_action (h : server.Tracks d) {op : Operation} (hop : op.Plain) :
    Makes server d (op.action cfg) op.changes := by
  cases op with
  | createSession s => exact makes_createSession h hop
  | deleteSession s => exact makes_deleteSession h s
  | recreateSession s => exact (makes_deleteSession h s).seq fun _ h' => makes_createSession h' hop
  | createWindow w => exact makes_createWindow h hop.1 hop.2
  | deleteWindow w => exact makes_deleteWindow h hop.1
  | recreateWindow w =>
    exact (makes_deleteWindow h hop.1).seq fun _ h' => makes_createWindow h' hop.1 hop.2
  | deleteSessionOf w => exact makes_deleteSession h w.session

theorem Tracks.follows (h : server.Tracks d) {ops : List Operation} (hops : ∀ op ∈ ops, op.Plain) :
    Follows cfg server d ops := by
  induction ops generalizing server d with
  | nil => exact h.answers
  | cons op ops ih =>
    obtain ⟨hop, hops⟩ := List.forall_mem_cons.1 hops
    refine ⟨h.answers, fun calls => ?_⟩
    obtain ⟨server', hends, hissued, htracks⟩ := makes_action cfg (h.withCalls calls) hop
    exact ⟨server', hends, hissued, ih htracks hops⟩

/-- A server without sessions, running or not, goes with the empty directory. -/
theorem tracks_fresh (running : Bool) : ({ running } : Server).Tracks [] where
  directory := rfl
  nodup := List.nodup_nil
  plain := ⟨fun _ hs => absurd hs List.not_mem_nil, fun _ hs => absurd hs List.not_mem_nil,
    Or.inr rfl⟩
  failures := rfl

end Server

/-- On a server that starts without sessions, running or stopped, whatever operations on plain names
follow one another, they go well, and the listings and the subcommands issued are those of the
directory that they change. -/
theorem follows_directory (cfg : Tmux.Settings) (running : Bool) (ops : List Operation)
    (hops : ∀ op ∈ ops, op.Plain) : Server.Follows cfg { running } [] ops :=
  (Server.tracks_fresh running).follows hops

/-- Windows come, go and come again on a server that was stopped, until their session goes. -/
theorem follows_directory_main :
    let main : Tmux.Session := ⟨"main", by decide⟩
    let work : Tmux.Window := ⟨main, "work", by decide⟩
    let logs : Tmux.Window := ⟨main, "a:b -n", by decide⟩
    let ops : List Operation :=
      [.createWindow work, .createWindow logs, .createWindow work, .deleteWindow work,
        .recreateSession main, .recreateWindow logs, .deleteWindow logs, .deleteSessionOf work]
    (∀ op ∈ ops, op.Plain) ∧ Server.Follows {} { running := false } [] ops := by
  intro main work logs ops
  have hops : ∀ op ∈ ops, op.Plain := by decide
  exact ⟨hops, follows_directory {} false ops hops⟩

end PaneRunner.Simulation
