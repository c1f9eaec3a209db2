import Mathlib.Data.List.Nodup
import PaneRunner.Proofs.Server.Reachable
import PaneRunner.Tmux.Keys

/-
  Calls that are refused. A server that started without sessions and was only ever asked and tuned
  (`Driven`) has sessions of different names, each with a window, and no command that waits for no
  more looks (`Sane`): every kind of write keeps that. A call that ends with a non-zero exit code
  has written nothing (`Atomic`). The one that writes before it knows is a look at a pane, and what
  ends at a look ends in the window that is looked at (`Sane.untouched_advance`).
-/
namespace PaneRunner.Simulation

/-- An arrangement that only says how commands will go. -/
def Arrangement.Tunes : Arrangement → Prop
  | .responder _ | .exitCode _ | .completionDelay _ | .captureDelay _ | .captureOverride _
  | .failure _ => True
  | .stopped | .session _ _ | .pane _ _ _ => False

/-- The servers that come up when one without sessions, running or not, is asked and tuned. -/
inductive Driven : Server → Prop where
  | fresh (running : Bool) : Driven { running }
  | asked {server : Server} (h : Driven server) (r : Exec.Request) :
    Driven (server.executor r).state
  | tuned {server : Server} (h : Driven server) {a : Arrangement} (ha : a.Tunes) :
    Driven (a.apply server)

namespace Server

/-- Sessions have different names and at least one window, and a command that has not ended waits
for a look. -/
structure Sane (server : Server) : Prop where
  names : (server.sessions.map Session.name).Nodup
  windows : ∀ s ∈ server.sessions, s.windows ≠ []
  waits : ∀ p, server.pending = some p → 0 < p.pollsLeft

variable {server server' : Server}

/-! ## Writes that keep a server sane -/

theorem Sane.of_eq (h : server.Sane) (hsessions : server'.sessions = server.sessions)
    (hpending : server'.pending = server.pending) : server'.Sane where
  names := by rw [hsessions]; exact h.names
  windows := by rw [hsessions]; exact h.windows
  waits := by rw [hpending]; exact h.waits

theorem Sane.withPending (h : server.Sane) {pending : Option Pending}
    (hpending : ∀ p, pending = some p → 0 < p.pollsLeft) : Sane { server with pending } :=
  ⟨h.names, h.windows, hpending⟩

theorem Sane.settled (h : server.Sane) : Sane { server with pending := none } :=
  h.withPending nofun

/-- A session that keeps its name and a window. -/
theorem Sane.onSession (h : server.Sane) {name : String} {f : Session → Session}
    (hname : ∀ s, server.session? name = some s → (f s).name = s.name)
    (hwindows : ∀ s, server.session? name = some s → (f s).windows ≠ []) :
    (server.onSession name f).Sane where
  names := by
    rw [Server.onSession, map_modifyFirst_of_find? hname]
    exact h.names
  windows := by
    intro s hs
    rcases mem_modifyFirst_of_find? hs with hs | ⟨s', hs', rfl⟩
    · exact h.windows s hs
    · exact hwindows s' hs'
  waits := h.waits

theorem Sane.of_session? (h : server.Sane) {name : String} {s : Session}
    (hs : server.session? name = some s) : s.name = name ∧ s.windows ≠ [] := by
  have hfound : server.sessions.find? (fun x => x.name == name) = some s := hs
  have hname := List.find?_some hfound
  exact ⟨beq_iff_eq.1 hname, h.windows s (List.mem_of_find?_eq_some hfound)⟩

theorem Sane.onWindow (h : server.Sane) (address : String) (f : Window → Window) :
    (server.onWindow address f).Sane := by
  unfold Server.onWindow
  split
  · exact h.onSession (fun _ _ => rfl) fun _ hs => modifyFirst_ne_nil (h.of_session? hs).2
  · exact h

theorem Sane.filter (h : server.Sane) (p : Session → Bool) :
    Sane { server with sessions := server.sessions.filter p } where
  names := h.names.sublist (List.filter_sublist.map _)
  windows := fun s hs => h.windows s (List.mem_of_mem_filter hs)
  waits := h.waits

/-- A session of a new name. -/
theorem Sane.append (h : server.Sane) {s : Session} (hnew : server.session? s.name = none)
    (hwindows : s.windows ≠ []) (running : Bool) :
    Sane { server with running, sessions := server.sessions ++ [s] } where
  names := by
    rw [List.map_append, List.map_singleton]
    refine List.Nodup.append h.names (List.nodup_singleton _) ?_
    rw [List.disjoint_singleton]
    intro hmem
    obtain ⟨s', hs', hname⟩ := List.mem_map.1 hmem
    have hnot := List.find?_eq_none.1 hnew s' hs'
    exact hnot (beq_iff_eq.2 hname)
  windows := by
    intro s' hs'
    rcases List.mem_append.1 hs' with hs' | hs'
    · exact h.windows s' hs'
    · rw [List.mem_singleton.1 hs']
      exact hwindows
  waits := h.waits

/-! ## What happens in a window keeps a server sane -/

theorem Sane.complete (h : server.Sane) (p : Pending) : (server.complete p).Sane := by
  unfold Server.complete
  split
  · exact h
  · have hshown := h.onWindow p.address fun w => { w with pane := w.pane ++ p.paneLines }
    dsimp only
    split
    · exact hshown
    · split
      · exact hshown.of_eq rfl rfl
      · exact hshown.of_eq rfl rfl

theorem Sane.submit (h : server.Sane) (address typed : String) :
    (server.submit address typed).Sane := by
  unfold Server.submit
  split
  · exact h.onWindow _ _
  · dsimp only
    split
    · exact h.complete _
    · rename_i hleft
      refine h.withPending fun p hp => ?_
      cases hp
      exact Nat.pos_of_ne_zero hleft

theorem Sane.press (h : server.Sane) (address : String) (w : Window) (keys : List String) :
    (server.press address w keys).Sane := by
  unfold Server.press
  split
  · exact h.onWindow _ _
  · exact (h.onWindow _ _).submit _ _
  · exact (h.onWindow _ _).submit _ _
  · exact h.onWindow _ _
  · exact h

theorem Sane.advance (h : server.Sane) (address : String) : (server.advance address).Sane := by
  unfold Server.advance
  split
  · exact h
  · rename_i p _
    dsimp only
    generalize (if p.address = address then p.pollsLeft - 1 else p.pollsLeft) = left
    split
    · exact h.settled.complete _
    · rename_i hleft
      refine h.withPending fun p hp => ?_
      cases hp
      exact Nat.pos_of_ne_zero hleft

/-! ## Calls keep a server sane -/

theorem Sane.wrote (h : server.Sane) (hwrote : Wrote server server') : server'.Sane := by
  cases hwrote with
  | nothing => exact h
  | session s hnew hwindows => exact h.append hnew hwindows true
  | without p => exact h.filter p
  | windows name f hname hwindows => exact h.onSession hname hwindows
  | window address f => exact h.onWindow address f
  | pressed address w keys => exact h.press address w keys
  | looked address => exact h.advance address

theorem Sane.went {r : Exec.Output × Server} (h : server.Sane) (hwent : Went server r) :
    r.2.Sane := by
  cases hwent with
  | refused stderr => exact h
  | accepted hwrote stdout => exact h.wrote hwrote
  | missed hgone stderr => exact h.advance _
  | failed o failures => exact h.of_eq rfl rfl

theorem Sane.executor (h : server.Sane) (r : Exec.Request) : (server.executor r).state.Sane := by
  cases r with
  | run i =>
    change (server.invoke i).2.Sane
    unfold invoke
    split
    · exact h
    · rename_i program args _
      have hheard : Sane { server with calls := (program :: args) :: server.calls } :=
        h.of_eq rfl rfl
      exact hheard.went (went_command args)
  | newFile => exact h.of_eq rfl rfl
  | contents path =>
    change (Server.flush { server with fileReads := server.fileReads + 1 } path).Sane
    unfold flush
    split
    · exact h.of_eq rfl rfl
    · rename_i d _
      dsimp only
      generalize (if d.path = path then d.readsLeft - 1 else d.readsLeft) = left
      split <;> exact h.of_eq rfl rfl
  | removeFile path => exact h.of_eq rfl rfl

/-! ## Refused calls -/

/-- Nothing is different but the record of the calls, the failures that are still to come and
the command that has not ended. -/
def Untouched (server server' : Server) : Prop :=
  ∃ calls failures pending, server' = { server with calls, failures, pending }

theorem Untouched.refl (server : Server) : Untouched server server :=
  ⟨server.calls, server.failures, server.pending, rfl⟩

theorem Untouched.trans {server'' : Server} (h : Untouched server server')
    (h' : Untouched server' server'') : Untouched server server'' := by
  obtain ⟨_, _, _, rfl⟩ := h
  obtain ⟨calls, failures, pending, rfl⟩ := h'
  exact ⟨calls, failures, pending, rfl⟩

/-- An exit code other than zero comes with an untouched server. -/
def Atomic (server : Server) (r : Exec.Output × Server) : Prop :=
  r.1.code = 0 ∨ Untouched server r.2

/-- The output of a command takes no window away, so where there is none now nothing was
written. -/
theorem complete_eq_self {p : Pending} (h : (server.complete p).window? p.address = none) :
    server.complete p = server := by
  cases hw : server.window? p.address with
  | none =>
    unfold complete
    rw [hw]
  | some w =>
    have hsessions : (server.complete p).sessions =
        (server.onWindow p.address fun w => { w with pane := w.pane ++ p.paneLines }).sessions := by
      unfold complete
      rw [hw]
      dsimp only
      split
      · rfl
      · split <;> rfl
    have hkept : (server.onWindow p.address fun w =>
        { w with pane := w.pane ++ p.paneLines }).window? p.address =
          (server.window? p.address).map fun w => { w with pane := w.pane ++ p.paneLines } :=
      window?_onWindow fun _ => rfl
    rw [window?_congr hsessions, hkept, hw] at h
    cases h

/-- A command that ends at a look ends in the window that is looked at, so where there is no such
window nothing ends. -/
theorem Sane.untouched_advance (h : server.Sane) {address : String}
    (hgone : (server.advance address).window? address = none) :
    Untouched server (server.advance address) := by
  unfold Server.advance at hgone ⊢
  cases hpending : server.pending with
  | none => exact Untouched.refl server
  | some p =>
    rw [hpending] at hgone
    dsimp only at hgone ⊢
    by_cases hhere : p.address = address
    · subst hhere
      rw [if_pos rfl] at hgone ⊢
      by_cases hdone : p.pollsLeft - 1 = 0
      · -- it ends at this look, and there is no window to write to
        rw [if_pos hdone] at hgone ⊢
        rw [complete_eq_self hgone]
        exact ⟨server.calls, server.failures, none, rfl⟩
      · rw [if_neg hdone]
        exact ⟨server.calls, server.failures, _, rfl⟩
    · -- this is no look at its window, so it waits as long as before, which is not nothing
      have hwaits := h.waits p hpending
      rw [if_neg hhere, if_neg (Nat.ne_of_gt hwaits)]
      exact ⟨server.calls, server.failures, _, rfl⟩

/-- A call is all or nothing. -/
theorem Sane.atomic_went {r : Exec.Output × Server} (h : server.Sane) (hwent : Went server r) :
    server.Atomic r := by
  cases hwent with
  | refused stderr => exact Or.inr (Untouched.refl server)
  | accepted hwrote stdout => exact Or.inl rfl
  | missed hgone stderr => exact Or.inr (h.untouched_advance hgone)
  | failed o failures => exact Or.inr ⟨server.calls, failures, server.pending, rfl⟩

end Server

theorem judge_of_code_eq_zero {o : Exec.Output} (h : o.code = 0) (acceptAny : Bool)
    (command : String) : o.judge acceptAny command = .ok o := by
  have hsuccess : o.success = true := beq_iff_eq.2 h
  unfold Exec.Output.judge Exec.Output.check
  rw [if_pos hsuccess]
  exact ite_self _

theorem Driven.sane {server : Server} (h : Driven server) : server.Sane := by
  induction h with
  | fresh running => exact ⟨List.nodup_nil, nofun, nofun⟩
  | asked _ r ih => exact ih.executor r
  | @tuned _ _ a ha ih =>
    cases a with
    | stopped | session _ _ | pane _ _ _ => exact ha.elim
    | _ => exact ih.of_eq rfl rfl

/-- Sessions of a driven server have different names and a window each, and an invocation that
does not end with exit code 0 touches neither them nor the files. -/
theorem Driven.invariant {server : Server} (h : Driven server) :
    (server.sessions.map Session.name).Nodup ∧ (∀ s ∈ server.sessions, s.windows ≠ []) ∧
      ∀ i : Exec.Invocation,
        (∃ o : Exec.Output, (server.executor (.run i)).value = .ok o ∧ o.code = 0) ∨
          server.Untouched (server.executor (.run i)).state := by
  refine ⟨h.sane.names, h.sane.windows, fun i => ?_⟩
  change (∃ o : Exec.Output, (server.invoke i).1 = .ok o ∧ o.code = 0) ∨
    server.Untouched (server.invoke i).2
  unfold Server.invoke
  split
  · exact Or.inr (Server.Untouched.refl server)
  · rename_i program args _
    have hheard : Server.Sane { server with calls := (program :: args) :: server.calls } :=
      h.sane.of_eq rfl rfl
    rcases hheard.atomic_went (Server.went_command args) with hzero | huntouched
    · exact Or.inl ⟨_, judge_of_code_eq_zero hzero _ _, hzero⟩
    · have hcalls : server.Untouched { server with calls := (program :: args) :: server.calls } :=
        ⟨_, server.failures, server.pending, rfl⟩
      exact Or.inr (hcalls.trans huntouched)

/-- A command waits for its second look in `main:work` while `logs:work` is looked for. -/
theorem Driven.invariant_waiting :
    ∃ server : Server, Driven server ∧ server.pending.map Pending.pollsLeft = some 1 ∧
      let look := server.executor (.run { argv := ["tmux", "capture-pane", "-t", "logs:work"] })
      look.value = .error (.nonZeroExit "tmux capture-pane -t logs:work" 1 ""
        "can't find pane: logs:work\n") ∧ server.Untouched look.state := by
  have asked : ∀ server, Driven server → ∀ args : List String,
      Driven (server.executor (.run { argv := "tmux" :: args })).state := fun _ h _ => h.asked _
  have hnew := asked _ ((Driven.fresh true).tuned (a := .completionDelay 2) trivial)
    ["new-session", "-s", "main", "-n", "work"]
  have htyped := asked _ hnew
    ("send-keys" :: "-t" :: "main:work" :: "-H" :: Tmux.hexBytes (Tmux.commandLine ["true"] "m"))
  have hentered := asked _ htyped ["send-keys", "-t", "main:work", "enter"]
  have hlooked := asked _ hentered ["capture-pane", "-t", "main:work"]
  refine ⟨_, hlooked, by decide +kernel, ?_⟩
  intro look
  have hvalue : look.value = .error (.nonZeroExit "tmux capture-pane -t logs:work" 1 ""
      "can't find pane: logs:work\n") := by decide +kernel
  refine ⟨hvalue, ?_⟩
  rcases hlooked.invariant.2.2 { argv := ["tmux", "capture-pane", "-t", "logs:work"] } with
    ⟨o, ho, -⟩ | huntouched
  · rw [hvalue] at ho
    cases ho
  · exact huntouched

end PaneRunner.Simulation
