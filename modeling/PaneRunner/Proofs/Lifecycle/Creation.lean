import PaneRunner.Proofs.Lifecycle.Directory

/-
  The making of a window, question by question. `Creation` is how far it has come; each stage is one
  question (`Creation.asks`), and what the server has when the question is put decides which stage comes
  next and whether something is added. Nothing holds the server still between two questions, so what an
  earlier one found may no longer be so.
-/
namespace PaneRunner.Simulation

open Text Plan Server

/-- How far the making of a window has come. -/
inductive Creation where
  | listing
  | naming
  | relisting
  | adding
  | founding
  | ended (r : Except Tmux.Error Unit)

namespace Creation

variable (cfg : Tmux.Settings) (w : Tmux.Window)

/-- The subcommand that a stage puts to the multiplexer; none when the making has ended. -/
def args : Creation → List String
  | .listing | .relisting => ["ls"]
  | .naming => ["list-windows", "-t", w.session.name, "-F", "#\x7bwindow_name\x7d"]
  | .adding => ["new-window", "-d", "-t", w.session.name ++ ":", "-n", w.name]
  | .founding => ["new-session", "-d", "-s", w.session.name, "-n", w.name]
  | .ended _ => []

/-- What is left of the making. -/
def plan : Creation → Exec.Procedure (Except Tmux.Error Unit)
  | .listing => (w.create cfg).run
  | .naming =>
    (w.session.listing cfg >>= fun o =>
      if o.stdoutLines.contains w.name then pure () else w.making cfg).run
  | .relisting => (w.making cfg).run
  | .adding => (cfg.tmux (args w .adding) >>= fun _ => (pure () : Tmux.Action Unit)).run
  | .founding => (cfg.tmux (args w .founding) >>= fun _ => (pure () : Tmux.Action Unit)).run
  | .ended r => .done r

/-- A stage ends the making with a refusal. -/
def refused (stage : Creation) (stderr : String) : Creation :=
  .ended (.error (refusal (cfg.binary :: stage.args w) stderr))

variable (server : Server)

/-- The stage after the question was put to the server. -/
def next : Creation → Creation
  | .listing => if server.lists w.session.name then .naming else .relisting
  | .naming =>
    if (server.session? w.session.name).isSome then
      if (server.window? w.target).isSome then .ended (.ok ()) else .relisting
    else refused cfg w .naming (noSession w.session.name)
  | .relisting => if server.lists w.session.name then .adding else .founding
  | .adding =>
    if (server.session? w.session.name).isSome then .ended (.ok ())
    else refused cfg w .adding (noSession w.session.name)
  | .founding =>
    if (server.session? w.session.name).isSome then
      refused cfg w .founding ("duplicate session: " ++ w.session.name ++ "\n")
    else .ended (.ok ())
  | .ended r => .ended r

/-- What the server has after the question. -/
def effect : Creation → Server
  | .adding =>
    if (server.session? w.session.name).isSome then
      server.onSession w.session.name (addWindow w.name)
    else server
  | .founding =>
    if (server.session? w.session.name).isSome then server else server.withSession w
  | _ => server

variable {cfg w server}

/-- No failure is on order, and the names of the server and of the window are plain. -/
structure Askable (server : Server) (w : Tmux.Window) : Prop where
  failures : server.failures = []
  names : server.PlainNames
  session : PlainSession w.session.name
  window : PlainWindow w.name

variable (cfg) in
/-- A stage is one question. -/
theorem asks (h : Askable server w) (stage : Creation) (hstage : ∀ r, stage ≠ .ended r) :
    Asks executor (stage.plan cfg w) server ((stage.next cfg w server).plan cfg w)
      ((stage.effect w server).heard (cfg.binary :: stage.args w)) := by
  have hlistable := h.names.listable
  cases stage with
  | listing =>
    have hasked := asks_lists cfg
      (w.session.listing cfg >>= fun o =>
        if o.stdoutLines.contains w.name then pure () else w.making cfg)
      (w.making cfg) h.failures hlistable w.session.name
    rw [← Tmux.window_create_eq] at hasked
    unfold next
    cases hlists : server.lists w.session.name with
    | true =>
      rw [hlists] at hasked
      exact hasked
    | false =>
      rw [hlists] at hasked
      exact hasked
  | naming =>
    cases hs : server.session? w.session.name with
    | some x =>
      have hasked := asks_listing cfg
        (fun names => if names.contains w.name then pure () else w.making cfg) h.failures hs
      rw [lines_windows (h.names.window x (List.mem_of_find?_eq_some hs)), contains_windows] at hasked
      have hwindow : server.window? w.target = x.windows.find? fun y => y.name == w.name := by
        rw [window?_target h.session.no_colon, hs, Option.bind_some]
      rw [next, hs, Option.isSome_some, if_pos rfl, hwindow]
      by_cases hthere : (x.windows.find? fun y => y.name == w.name).isSome = true
      · rw [if_pos hthere] at hasked ⊢
        exact hasked
      · rw [if_neg hthere] at hasked ⊢
        exact hasked
    | none =>
      unfold next
      rw [hs, Option.isSome_none, if_neg Bool.false_ne_true]
      exact asks_listing_missing h.failures hs
  | relisting =>
    have hasked := asks_lists cfg
      (cfg.tmux (args w .adding) >>= fun _ => (pure () : Tmux.Action Unit))
      (cfg.tmux (args w .founding) >>= fun _ => (pure () : Tmux.Action Unit))
      h.failures hlistable w.session.name
    unfold next
    cases hlists : server.lists w.session.name with
    | true =>
      rw [hlists] at hasked
      exact hasked
    | false =>
      rw [hlists] at hasked
      exact hasked
  | adding =>
    unfold next effect
    cases hs : server.session? w.session.name with
    | some x =>
      rw [Option.isSome_some, if_pos rfl, if_pos rfl]
      exact asks_newWindow h.failures h.session.no_colon hs
    | none =>
      rw [Option.isSome_none, if_neg Bool.false_ne_true, if_neg Bool.false_ne_true]
      exact asks_newWindow_missing h.failures h.session.no_colon hs
  | founding =>
    unfold next effect
    cases hs : server.session? w.session.name with
    | some x =>
      rw [Option.isSome_some, if_pos rfl, if_pos rfl]
      exact asks_newSession_duplicate h.failures hs
    | none =>
      rw [Option.isSome_none, if_neg Bool.false_ne_true, if_neg Bool.false_ne_true]
      exact asks_newSession h.failures h.session.no_flag hs
  | ended r => exact absurd rfl (hstage r)

/-! ## What becomes of the server -/

/-- A session is listed if the server runs and has it. -/
theorem lists_iff (server : Server) (name : String) :
    server.lists name = true ↔ server.running = true ∧ (server.session? name).isSome = true := by
  unfold Server.lists listed Server.session?
  cases server.running with
  | true => simp
  | false => simp

/-- Only what is there matters to what comes next. -/
theorem next_congr {server' : Server}
    (hlists : server'.lists w.session.name = server.lists w.session.name)
    (hsession : (server'.session? w.session.name).isSome = (server.session? w.session.name).isSome)
    (hwindow : (server'.window? w.target).isSome = (server.window? w.target).isSome)
    (stage : Creation) : stage.next cfg w server' = stage.next cfg w server := by
  cases stage with
  | listing => rw [next, next, hlists]
  | naming => rw [next, next, hsession, hwindow]
  | relisting => rw [next, next, hlists]
  | adding => rw [next, next, hsession]
  | founding => rw [next, next, hsession]
  | ended r => rfl

theorem Askable.withCalls (h : Askable server w) (calls : List (List String)) :
    Askable (server.withCalls calls) w :=
  ⟨h.failures, ⟨h.names.session, h.names.window⟩, h.session, h.window⟩

section Others

variable {v : Tmux.Window} (h : Askable server w) (hv : Askable server v)
include h hv

theorem Askable.added : Askable (server.onSession v.session.name (addWindow v.name)) w :=
  ⟨h.failures, h.names.onSession (fun _ => rfl) (h.names.addWindow hv.window), h.session, h.window⟩

theorem Askable.founded : Askable (server.withSession v) w :=
  ⟨h.failures, h.names.withSession hv.session hv.window, h.session, h.window⟩

/-- The making of one window leaves a server on which another can be made. -/
theorem Askable.effect (stage : Creation) : Askable (stage.effect v server) w := by
  unfold Creation.effect
  split
  · split
    · exact h.added hv
    · exact h
  · split
    · exact h
    · exact h.founded hv
  · exact h

theorem Askable.withWindow : Askable (server.withWindow v) w := by
  unfold Server.withWindow
  split
  · exact h
  · split
    · exact h.added hv
    · exact h.founded hv

end Others

/-- No stage takes a window away. -/
theorem windows_effect (stage : Creation) (server : Server) (w : Tmux.Window) (name : String) :
    server.directory.windows name <+: (stage.effect w server).directory.windows name := by
  unfold Creation.effect
  split
  · cases hs : server.session? w.session.name with
    | some x =>
      rw [Option.isSome_some, if_pos rfl, windows_onSession_addWindow hs]
      split
      · rename_i hname
        rw [hname]
        exact List.prefix_append _ _
      · exact List.prefix_rfl
    | none => exact List.prefix_rfl
  · cases hs : server.session? w.session.name with
    | some x => exact List.prefix_rfl
    | none =>
      rw [Option.isSome_none, if_neg Bool.false_ne_true, windows_withSession w hs]
      split
      · rename_i hname
        rw [hname, windows_directory, hs]
        exact List.nil_prefix
      · exact List.prefix_rfl
  · exact List.prefix_rfl

/-! ## Windows that are there -/

/-- A making that has found its window, or is told of no session because the server is stopped. -/
def Idle (server : Server) (w : Tmux.Window) : Creation → Prop
  | .listing | .naming => True
  | .relisting | .founding => server.lists w.session.name = false
  | .adding | .ended _ => False

variable (cfg) in
/-- The making of a window that is there goes on idle to its end. -/
theorem Idle.next {stage : Creation} (h : stage.Idle server w) (hcolon : ':' ∉ w.session.name.toList)
    (hw : (server.window? w.target).isSome = true) :
    (∃ r, stage.next cfg w server = .ended r) ∨ (stage.next cfg w server).Idle server w := by
  cases stage with
  | listing =>
    unfold Creation.next
    by_cases hlists : server.lists w.session.name = true
    · rw [if_pos hlists]
      exact .inr trivial
    · rw [if_neg hlists]
      exact .inr (Bool.eq_false_iff.2 hlists)
  | naming =>
    have hs := isSome_session?_of_window? hcolon hw
    exact .inl ⟨_, (if_pos hs).trans (if_pos hw)⟩
  | relisting => exact .inr (by rw [Creation.next, if_neg (Bool.eq_false_iff.1 h)]; exact h)
  | founding =>
    have hs := isSome_session?_of_window? hcolon hw
    exact .inl ⟨_, if_pos hs⟩
  | adding => exact h.elim
  | ended r => exact .inl ⟨r, rfl⟩

theorem Idle.congr {server' : Server} {stage : Creation} (h : stage.Idle server w)
    (hlists : server'.lists w.session.name = server.lists w.session.name) : stage.Idle server' w := by
  unfold Idle at h ⊢
  rw [hlists]
  exact h

theorem Idle.effect {stage : Creation} (h : stage.Idle server w)
    (hs : (server.session? w.session.name).isSome = true) : stage.effect w server = server := by
  cases stage with
  | adding => exact h.elim
  | founding => exact if_pos hs
  | _ => rfl

end Creation

end PaneRunner.Simulation
