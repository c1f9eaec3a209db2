import Mathlib.Data.Fintype.Basic
import PaneRunner.Proofs.Lifecycle.Creation
import PaneRunner.Proofs.Plan.Interleaving

/-
  Windows made side by side. Every making asks first and acts afterwards, and nothing holds the server
  still in between, so two makings can both find a window or its session missing and both add it. What is
  left of the makings and what the server has is followed stage by stage (`Stands.turn`). Where no two
  makings can get in each other's way (`Raceless`), every interleaving makes every window once
  (`allMade_of_raceless`); and everywhere else some interleaving does not.
-/
namespace PaneRunner.Simulation

open Plan Server

/-- The server after one window after another was asked for. -/
def Server.withWindows (server : Server) (ws : List Tmux.Window) : Server :=
  ws.foldl Server.withWindow server

section Windows

variable {server : Server} {w : Tmux.Window} {ws : List Tmux.Window}

theorem withWindows_concat (server : Server) (ws : List Tmux.Window) (w : Tmux.Window) :
    server.withWindows (ws ++ [w]) = (server.withWindows ws).withWindow w :=
  List.foldl_append

/-- The windows can be made one after another, and then `w` can be made. -/
theorem Creation.Askable.withWindows (h : Creation.Askable server w)
    (hws : ∀ v ∈ ws, Creation.Askable server v) : Creation.Askable (server.withWindows ws) w := by
  induction ws generalizing server with
  | nil => exact h
  | cons v ws ih =>
    obtain ⟨hv, hws⟩ := List.forall_mem_cons.1 hws
    exact ih (h.withWindow hv) fun u hu => (hws u hu).withWindow hv

theorem running_withWindow (h : server.running = true) (w : Tmux.Window) :
    (server.withWindow w).running = true := by
  unfold Server.withWindow
  split
  · exact h
  · split
    · exact h
    · rfl

theorem running_withWindows (h : server.running = true) (ws : List Tmux.Window) :
    (server.withWindows ws).running = true := by
  induction ws generalizing server with
  | nil => exact h
  | cons v ws ih => exact ih (running_withWindow h v)

theorem mem_sessions_withWindows (hws : ∀ v ∈ ws, ':' ∉ v.session.name.toList) (name : String) :
    name ∈ (server.withWindows ws).directory.sessions ↔
      name ∈ server.directory.sessions ∨ ∃ v ∈ ws, name = v.session.name := by
  induction ws generalizing server with
  | nil => simp [withWindows]
  | cons v ws ih =>
    obtain ⟨hv, hws⟩ := List.forall_mem_cons.1 hws
    rw [withWindows, List.foldl_cons, ← withWindows, ih hws, directory_withWindow hv,
      Directory.mem_sessions_addWindow_iff, or_assoc, List.exists_mem_cons_iff]

theorem mem_windows_withWindows (hws : ∀ v ∈ ws, ':' ∉ v.session.name.toList) (s n : String) :
    n ∈ (server.withWindows ws).directory.windows s ↔
      n ∈ server.directory.windows s ∨ ∃ v ∈ ws, s = v.session.name ∧ n = v.name := by
  induction ws generalizing server with
  | nil => simp [withWindows]
  | cons v ws ih =>
    obtain ⟨hv, hws⟩ := List.forall_mem_cons.1 hws
    rw [withWindows, List.foldl_cons, ← withWindows, ih hws, directory_withWindow hv,
      Directory.mem_windows_addWindow_iff, or_assoc, List.exists_mem_cons_iff]

theorem count_windows_withWindows_le (hws : ∀ v ∈ ws, ':' ∉ v.session.name.toList) {s n : String}
    (h : (server.directory.windows s).count n ≤ 1) :
    ((server.withWindows ws).directory.windows s).count n ≤ 1 := by
  induction ws generalizing server with
  | nil => exact h
  | cons v ws ih =>
    obtain ⟨hv, hws⟩ := List.forall_mem_cons.1 hws
    refine ih hws ?_
    rw [directory_withWindow hv]
    exact Directory.count_windows_addWindow_le h

end Windows

variable {ι : Type} {cfg : Tmux.Settings} {w : ι → Tmux.Window} {server : Server}
  {pool : Pool Exec.Answer ι (Except Tmux.Error Unit) Server} {stages : ι → Creation}

/-! ## The stages of all makings -/

variable (cfg w) in
/-- The windows are being made, and no question was put yet. -/
def makings (server : Server) : Pool Exec.Answer ι (Except Tmux.Error Unit) Server :=
  Pool.start (fun i => ((w i).create cfg).run) server

variable (cfg w) in
/-- The makings have come to these stages, and the server has what `server` has. -/
structure Stands (pool : Pool Exec.Answer ι (Except Tmux.Error Unit) Server) (stages : ι → Creation)
    (server : Server) : Prop where
  plans : ∀ i, (pool.plans i).plan = (stages i).plan cfg (w i)
  state : ∃ calls, pool.state = server.withCalls calls

variable (cfg w server) in
theorem stands_makings : Stands cfg w (makings cfg w server) (fun _ => .listing) server :=
  ⟨fun _ => rfl, server.calls, rfl⟩

theorem next_withCalls (stage : Creation) (w : Tmux.Window) (server : Server)
    (calls : List (List String)) :
    stage.next cfg w (server.withCalls calls) = stage.next cfg w server := by
  cases stage <;> rfl

theorem effect_withCalls (stage : Creation) (w : Tmux.Window) (server : Server)
    (calls : List (List String)) :
    stage.effect w (server.withCalls calls) = (stage.effect w server).withCalls calls := by
  have hsame : (server.withCalls calls).session? w.session.name = server.session? w.session.name := rfl
  cases stage with
  | adding =>
    rw [Creation.effect, Creation.effect, hsame]
    split <;> rfl
  | founding =>
    rw [Creation.effect, Creation.effect, hsame]
    split <;> rfl
  | _ => rfl

/-- A step of a making takes it to its next stage. -/
theorem step_creation {u : Underway Exec.Answer (Except Tmux.Error Unit)} {w : Tmux.Window}
    {stage : Creation} (hask : Creation.Askable server w) (hplan : u.plan = stage.plan cfg w)
    (elapsed : Duration) (calls : List (List String)) :
    (u.step executor elapsed (server.withCalls calls)).1.plan =
        (stage.next cfg w server).plan cfg w ∧
      ∃ calls', (u.step executor elapsed (server.withCalls calls)).2 =
        (stage.effect w server).withCalls calls' := by
  obtain ⟨p, made⟩ := u
  obtain rfl : p = stage.plan cfg w := hplan
  by_cases hended : ∃ r, stage = .ended r
  · obtain ⟨r, rfl⟩ := hended
    exact ⟨rfl, calls, rfl⟩
  · have hasked := Creation.asks cfg (hask.withCalls calls) stage fun r hr => hended ⟨r, hr⟩
    rw [next_withCalls, effect_withCalls] at hasked
    rw [hasked.step made elapsed]
    exact ⟨rfl, _, rfl⟩

theorem Stands.result? {i : ι} {r : Except Tmux.Error Unit} (h : Stands cfg w pool stages server)
    (hi : stages i = .ended r) : pool.result? i = some r := by
  have hplan := h.plans i
  rw [hi] at hplan
  rw [Pool.result?, Underway.result?, hplan]
  rfl

/-- A making has a value at no other stage. -/
theorem Stands.eq_ended {i : ι} {r : Except Tmux.Error Unit} (h : Stands cfg w pool stages server)
    (hask : Creation.Askable server (w i)) (hr : pool.result? i = some r) : stages i = .ended r := by
  have hdone := Underway.eq_done_of_result? hr
  rw [h.plans i] at hdone
  by_cases hended : ∃ r, stages i = .ended r
  · obtain ⟨r', hr'⟩ := hended
    rw [hr'] at hdone ⊢
    cases hdone
    rfl
  · obtain ⟨q, next, hasks, -⟩ := Creation.asks cfg hask (stages i)
      fun r' hr' => hended ⟨r', hr'⟩
    rw [hasks] at hdone
    cases hdone

variable [DecidableEq ι]

/-- A turn takes one making to its next stage. -/
theorem Stands.turn (h : Stands cfg w pool stages server) (t : Turn ι)
    (hask : Creation.Askable server (w t.who)) :
    Stands cfg w (pool.turn executor t)
      (Function.update stages t.who ((stages t.who).next cfg (w t.who) server))
      ((stages t.who).effect (w t.who) server) := by
  obtain ⟨calls, hstate⟩ := h.state
  have hstep := step_creation hask (h.plans t.who) t.elapsed calls
  rw [← hstate] at hstep
  refine ⟨fun i => ?_, hstep.2⟩
  by_cases hi : i = t.who
  · subst hi
    rw [Pool.plans_turn_self, hstep.1, Function.update_self]
  · rw [Pool.plans_turn_of_ne pool hi, Function.update_of_ne hi]
    exact h.plans i

/-! ## Makings that do not get in each other's way -/

omit [DecidableEq ι] in
variable (w) in
/-- No making can be misled by another one. A server that is stopped shows none of its sessions, so it
has none of those asked for; a window that is there is there once; and of two makings in one session at
most one adds something, or the session is there and they add different windows. -/
structure Raceless (server : Server) : Prop where
  running : server.running = true ∨ ∀ i, server.session? (w i).session.name = none
  single : ∀ i, (server.directory.windows (w i).session.name).count (w i).name ≤ 1
  apart : ∀ i j, i ≠ j → (w i).session.name = (w j).session.name →
    (server.window? (w i).target).isSome = true ∨ (server.window? (w j).target).isSome = true ∨
      (server.session? (w i).session.name).isSome = true ∧ (w i).name ≠ (w j).name

/-- What a making at a stage has found on the server; the window is among those made exactly if the
making has ended. -/
def Fits (server : Server) (w : Tmux.Window) (made : Prop) : Creation → Prop
  | .listing => ¬ made
  | .naming => ¬ made ∧ (server.session? w.session.name).isSome = true
  | .relisting => ¬ made ∧ (server.window? w.target).isSome = false
  | .adding => ¬ made ∧ (server.session? w.session.name).isSome = true ∧
      (server.window? w.target).isSome = false
  | .founding => ¬ made ∧ (server.session? w.session.name).isSome = false
  | .ended r => made ∧ r = .ok ()

section Others

omit [DecidableEq ι]

variable {made : List ι} {i : ι}

/-- Until a window is made itself, the others leave it and its session as they are. -/
theorem Raceless.session?_withWindows (h : Raceless w server)
    (hask : ∀ i, Creation.Askable server (w i)) (hi : i ∉ made) :
    ((server.withWindows (made.map w)).session? (w i).session.name).isSome =
      (server.session? (w i).session.name).isSome := by
  have hcolon : ∀ v ∈ made.map w, ':' ∉ v.session.name.toList :=
    List.forall_mem_map.2 fun j _ => (hask j).session.no_colon
  rw [Bool.eq_iff_iff, ← mem_sessions_iff, ← mem_sessions_iff, mem_sessions_withWindows hcolon]
  refine ⟨fun hthere => hthere.elim id fun ⟨v, hv, hname⟩ => ?_, Or.inl⟩
  obtain ⟨j, hj, rfl⟩ := List.mem_map.1 hv
  have hne : i ≠ j := fun e => hi (e ▸ hj)
  have hof : ∀ k, (w k).session.name = (w i).session.name →
      (server.window? (w k).target).isSome = true →
      (w i).session.name ∈ server.directory.sessions := by
    intro k hk hwindow
    rw [← hk, mem_sessions_iff]
    exact isSome_session?_of_window? (hask k).session.no_colon hwindow
  rcases h.apart i j hne hname with hwi | hwj | ⟨hs, -⟩
  · exact hof i rfl hwi
  · exact hof j hname.symm hwj
  · exact (mem_sessions_iff server _).2 hs

theorem Raceless.window?_withWindows (h : Raceless w server)
    (hask : ∀ i, Creation.Askable server (w i)) (hi : i ∉ made) :
    ((server.withWindows (made.map w)).window? (w i).target).isSome =
      (server.window? (w i).target).isSome := by
  have hcolon : ∀ v ∈ made.map w, ':' ∉ v.session.name.toList :=
    List.forall_mem_map.2 fun j _ => (hask j).session.no_colon
  have hcolon' := (hask i).session.no_colon
  rw [Bool.eq_iff_iff, ← mem_windows_iff hcolon', ← mem_windows_iff hcolon',
    mem_windows_withWindows hcolon]
  refine ⟨fun hthere => hthere.elim id fun ⟨v, hv, hsession, hname⟩ => ?_, Or.inl⟩
  obtain ⟨j, hj, rfl⟩ := List.mem_map.1 hv
  have hne : i ≠ j := fun e => hi (e ▸ hj)
  rcases h.apart i j hne hsession with hwi | hwj | ⟨-, hnames⟩
  · exact (mem_windows_iff hcolon').2 hwi
  · rw [hsession, hname]
    exact (mem_windows_iff (hask j).session.no_colon).2 hwj
  · exact absurd hname hnames

end Others

/-- What a making has found holds for as long as its window and session stay as they were. -/
theorem Fits.congr {server server' : Server} {w : Tmux.Window} {made made' : Prop} {stage : Creation}
    (h : Fits server w made stage) (hmade : made ↔ made')
    (hsession : (server'.session? w.session.name).isSome = (server.session? w.session.name).isSome)
    (hwindow : (server'.window? w.target).isSome = (server.window? w.target).isSome) :
    Fits server' w made' stage := by
  unfold Fits at h ⊢
  rw [hsession, hwindow, ← hmade]
  exact h

theorem Fits.of_made {server : Server} {w : Tmux.Window} {made : Prop} {stage : Creation}
    (h : Fits server w made stage) (hmade : made) : stage = .ended (.ok ()) := by
  cases stage with
  | listing => exact absurd hmade h
  | ended r => rw [h.2]
  | _ => exact absurd hmade h.1

variable (cfg) in
/-- The next stage of a making that was not misled: its window has just been made, or is still to be
made and the server is as it was. -/
theorem Fits.next {server : Server} {w : Tmux.Window} {stage : Creation}
    (h : Fits server w False stage) (hcolon : ':' ∉ w.session.name.toList)
    (hlists : server.lists w.session.name = (server.session? w.session.name).isSome) :
    stage.effect w server = server ∧ Fits server w False (stage.next cfg w server) ∨
      stage.effect w server = server.withWindow w ∧
        stage.next cfg w server = .ended (.ok ()) := by
  have habsent : ¬ (server.session? w.session.name).isSome = true →
      (server.window? w.target).isSome = false := by
    intro hnone
    rw [window?_target hcolon, Option.not_isSome_iff_eq_none.1 hnone]
    rfl
  cases stage with
  | listing =>
    refine .inl ⟨rfl, ?_⟩
    rw [Creation.next, hlists]
    by_cases hs : (server.session? w.session.name).isSome = true
    · rw [if_pos hs]
      exact ⟨h, hs⟩
    · rw [if_neg hs]
      exact ⟨h, habsent hs⟩
  | naming =>
    rw [Creation.next, if_pos h.2]
    by_cases hw : (server.window? w.target).isSome = true
    · exact .inr ⟨(if_pos hw).symm, if_pos hw⟩
    · rw [if_neg hw]
      exact .inl ⟨rfl, h.1, Bool.eq_false_iff.2 hw⟩
  | relisting =>
    refine .inl ⟨rfl, ?_⟩
    rw [Creation.next, hlists]
    by_cases hs : (server.session? w.session.name).isSome = true
    · rw [if_pos hs]
      exact ⟨h.1, hs, h.2⟩
    · rw [if_neg hs]
      exact ⟨h.1, Bool.eq_false_iff.2 hs⟩
  | adding =>
    obtain ⟨-, hs, hw⟩ := h
    refine .inr ⟨?_, if_pos hs⟩
    rw [Creation.effect, withWindow, if_neg (Bool.eq_false_iff.1 hw), if_pos hs, if_pos hs]
  | founding =>
    have hs : ¬ (server.session? w.session.name).isSome = true := Bool.eq_false_iff.1 h.2
    refine .inr ⟨?_, if_neg hs⟩
    rw [Creation.effect, withWindow, if_neg (Bool.eq_false_iff.1 (habsent hs)), if_neg hs, if_neg hs]
  | ended r => exact absurd h.1 id

/-- All makings have found what they would have found alone, or have ended. -/
def Fitting (cfg : Tmux.Settings) (w : ι → Tmux.Window) (server : Server)
    (pool : Pool Exec.Answer ι (Except Tmux.Error Unit) Server) : Prop :=
  ∃ (stages : ι → Creation) (made : List ι),
    Stands cfg w pool stages (server.withWindows (made.map w)) ∧
    ∀ i, Fits (server.withWindows (made.map w)) (w i) (i ∈ made) (stages i)

omit [DecidableEq ι] in
theorem askable_withWindows (hask : ∀ i, Creation.Askable server (w i)) (made : List ι) (i : ι) :
    Creation.Askable (server.withWindows (made.map w)) (w i) :=
  (hask i).withWindows (List.forall_mem_map.2 fun j _ => hask j)

theorem Raceless.fitting_turn (h : Raceless w server) (hask : ∀ i, Creation.Askable server (w i))
    (t : Turn ι) (hfit : Fitting cfg w server pool) :
    Fitting cfg w server (pool.turn executor t) := by
  obtain ⟨stages, made, hstands, hfits⟩ := hfit
  have hturned := hstands.turn t (askable_withWindows hask made t.who)
  have hupdate : ∀ (made : List ι) stage,
      (∀ i, Fits (server.withWindows (made.map w)) (w i) (i ∈ made)
        (Function.update stages t.who stage i)) ↔
      Fits (server.withWindows (made.map w)) (w t.who) (t.who ∈ made) stage ∧
        ∀ i, i ≠ t.who → Fits (server.withWindows (made.map w)) (w i) (i ∈ made) (stages i) :=
    fun made _ => Function.forall_update_iff stages
      fun i stage => Fits (server.withWindows (made.map w)) (w i) (i ∈ made) stage
  by_cases hmade : t.who ∈ made
  · rw [(hfits t.who).of_made hmade] at hturned
    exact ⟨_, made, hturned, (hupdate _ _).2 ⟨⟨hmade, rfl⟩, fun i _ => hfits i⟩⟩
  · have hlists : (server.withWindows (made.map w)).lists (w t.who).session.name =
        ((server.withWindows (made.map w)).session? (w t.who).session.name).isSome := by
      rw [Bool.eq_iff_iff, Creation.lists_iff, h.session?_withWindows hask hmade, and_iff_right_iff_imp]
      intro hsome
      refine h.running.elim (fun hrunning => running_withWindows hrunning _) fun hnone => ?_
      rw [hnone t.who] at hsome
      exact absurd hsome Bool.false_ne_true
    have hfit := (hfits t.who).congr (iff_false_intro hmade) rfl rfl
    rcases hfit.next cfg (hask t.who).session.no_colon hlists with
      ⟨heffect, hnext⟩ | ⟨heffect, hnext⟩
    · rw [heffect] at hturned
      exact ⟨_, made, hturned, (hupdate _ _).2
        ⟨hnext.congr (iff_false_intro hmade).symm rfl rfl, fun i _ => hfits i⟩⟩
    · rw [heffect, ← withWindows_concat, ← List.map_singleton (f := w) (a := t.who), ← List.map_append]
        at hturned
      refine ⟨_, made ++ [t.who], hturned, (hupdate _ _).2 ⟨?_, fun i hi => ?_⟩⟩
      · rw [hnext]
        exact ⟨List.mem_append_right _ (List.mem_singleton_self _), rfl⟩
      · have hmem : i ∈ made ↔ i ∈ made ++ [t.who] := by simp [hi]
        by_cases hthere : i ∈ made
        · rw [(hfits i).of_made hthere]
          exact ⟨hmem.1 hthere, rfl⟩
        · refine (hfits i).congr hmem ?_ ?_
          · rw [h.session?_withWindows hask hthere, h.session?_withWindows hask (mt hmem.2 hthere)]
          · rw [h.window?_withWindows hask hthere, h.window?_withWindows hask (mt hmem.2 hthere)]

/-- All windows were made: every making ended well, every window is there once, and nothing but the
windows was added. -/
structure AllMade (w : ι → Tmux.Window) (server : Server)
    (pool : Pool Exec.Answer ι (Except Tmux.Error Unit) Server) : Prop where
  ok : ∀ i, pool.result? i = some (.ok ())
  once : ∀ i, (pool.state.directory.windows (w i).session.name).count (w i).name = 1
  only : ∃ (order : List ι) (calls : List (List String)),
    pool.state = (server.withWindows (order.map w)).withCalls calls

omit [DecidableEq ι] in
theorem not_allMade_of_error {i : ι} {e : Tmux.Error} (h : pool.result? i = some (.error e)) :
    ¬ AllMade w server pool := by
  intro hmade
  cases h.symm.trans (hmade.ok i)

/-- Where no making can be misled, every interleaving makes all windows. -/
theorem allMade_of_raceless (h : Raceless w server) (hask : ∀ i, Creation.Askable server (w i))
    {turns : List (Turn ι)}
    (hdone : ∀ i, (((makings cfg w server).interleave executor turns).result? i).isSome = true) :
    AllMade w server ((makings cfg w server).interleave executor turns) := by
  have hstart : Fitting cfg w server (makings cfg w server) :=
    ⟨fun _ => .listing, [], stands_makings cfg w server, fun _ => List.not_mem_nil⟩
  obtain ⟨stages, made, hstands, hfits⟩ :=
    Pool.interleave_induction (fun pool t => h.fitting_turn hask t) hstart turns
  have hcolon : ∀ v ∈ made.map w, ':' ∉ v.session.name.toList :=
    List.forall_mem_map.2 fun j _ => (hask j).session.no_colon
  have hended : ∀ i, i ∈ made ∧ stages i = .ended (.ok ()) := by
    intro i
    obtain ⟨r, hr⟩ := Option.isSome_iff_exists.1 (hdone i)
    have hstage := hstands.eq_ended (askable_withWindows hask made i) hr
    have hfit := hfits i
    rw [hstage] at hfit
    obtain ⟨hmade, rfl⟩ := hfit
    exact ⟨hmade, hstage⟩
  obtain ⟨calls, hstate⟩ := hstands.state
  refine ⟨fun i => hstands.result? (hended i).2, fun i => ?_, made, calls, hstate⟩
  have hdirectory : ((makings cfg w server).interleave executor turns).state.directory =
      (server.withWindows (made.map w)).directory := by
    rw [hstate]
    rfl
  rw [hdirectory]
  refine Nat.le_antisymm (count_windows_withWindows_le hcolon (h.single i)) (List.count_pos_iff.2 ?_)
  exact (mem_windows_withWindows hcolon _ _).2
    (.inr ⟨w i, List.mem_map_of_mem (hended i).1, rfl, rfl⟩)

/-! ## Makings that do -/

theorem exists_stands_interleave (h : Stands cfg w pool stages server)
    (hask : ∀ i, Creation.Askable server (w i)) (turns : List (Turn ι)) :
    ∃ stages' server', Stands cfg w (pool.interleave executor turns) stages' server' ∧
      (∀ i, Creation.Askable server' (w i)) ∧
      ∀ name, server.directory.windows name <+: server'.directory.windows name := by
  induction turns generalizing pool stages server with
  | nil => exact ⟨stages, server, h, hask, fun _ => List.prefix_rfl⟩
  | cons t turns ih =>
    obtain ⟨stages', server', hstands, hask', hgrown⟩ :=
      ih (h.turn t (hask t.who)) fun i => (hask i).effect (hask t.who) _
    exact ⟨stages', server', hstands, hask',
      fun name => (Creation.windows_effect _ server _ name).trans (hgrown name)⟩

/-- One making goes on, the others stay where they are. -/
theorem Stands.go (h : Stands cfg w pool stages server) {i : ι} {stage stage' : Creation}
    {server' : Server} (hask : Creation.Askable server (w i)) (hi : stages i = stage)
    (hnext : stage.next cfg (w i) server = stage') (heffect : stage.effect (w i) server = server') :
    ∃ stages', Stands cfg w (pool.turn executor ⟨i, .zero⟩) stages' server' ∧ stages' i = stage' ∧
      ∀ j, j ≠ i → stages' j = stages j := by
  subst hi hnext heffect
  exact ⟨_, h.turn ⟨i, .zero⟩ hask, Function.update_self .., fun j hj => Function.update_of_ne hj ..⟩

/-- A making that finds no session of its window is about to make both. -/
theorem Stands.about_to_found (h : Stands cfg w pool stages server) {i : ι}
    (hask : Creation.Askable server (w i)) (hi : stages i = .listing)
    (hlists : server.lists (w i).session.name = false) :
    ∃ turns stages', Stands cfg w (pool.interleave executor turns) stages' server ∧
      stages' i = .founding ∧ ∀ j, j ≠ i → stages' j = stages j := by
  have hno : ¬ server.lists (w i).session.name = true := Bool.eq_false_iff.1 hlists
  obtain ⟨s₁, h₁, hi₁, hj₁⟩ := h.go hask hi (if_neg hno) rfl
  obtain ⟨s₂, h₂, hi₂, hj₂⟩ := h₁.go hask hi₁ (if_neg hno) rfl
  exact ⟨[⟨i, .zero⟩, ⟨i, .zero⟩], s₂, h₂, hi₂, fun j hj => (hj₂ j hj).trans (hj₁ j hj)⟩

/-- A making that finds the session without its window is about to add it. -/
theorem Stands.about_to_add (h : Stands cfg w pool stages server) {i : ι}
    (hask : Creation.Askable server (w i)) (hi : stages i = .listing)
    (hlists : server.lists (w i).session.name = true)
    (hwindow : ¬ (server.window? (w i).target).isSome = true) :
    ∃ turns stages', Stands cfg w (pool.interleave executor turns) stages' server ∧
      stages' i = .adding ∧ ∀ j, j ≠ i → stages' j = stages j := by
  have hs := ((Creation.lists_iff server _).1 hlists).2
  obtain ⟨s₁, h₁, hi₁, hj₁⟩ := h.go hask hi (if_pos hlists) rfl
  obtain ⟨s₂, h₂, hi₂, hj₂⟩ := h₁.go hask hi₁ ((if_pos hs).trans (if_neg hwindow)) rfl
  obtain ⟨s₃, h₃, hi₃, hj₃⟩ := h₂.go hask hi₂ (if_pos hlists) rfl
  exact ⟨[⟨i, .zero⟩, ⟨i, .zero⟩, ⟨i, .zero⟩], s₃, h₃, hi₃,
    fun j hj => (hj₃ j hj).trans ((hj₂ j hj).trans (hj₁ j hj))⟩

/-- Nothing has gone wrong: no making has failed, and no window is there twice. -/
structure Sound (w : ι → Tmux.Window) (pool : Pool Exec.Answer ι (Except Tmux.Error Unit) Server) :
    Prop where
  ok : ∀ i r, pool.result? i = some r → r = .ok ()
  once : ∀ i, (pool.state.directory.windows (w i).session.name).count (w i).name ≤ 1

section Sound

variable (hsound : ∀ turns, Sound w (pool.interleave executor turns))
include hsound

theorem sound_after (turns turns' : List (Turn ι)) :
    Sound w ((pool.interleave executor turns).interleave executor turns') := by
  rw [← Pool.interleave_append]
  exact hsound _

/-- A making that was told of no session does not find one after all. -/
theorem not_session_of_founding (h : Stands cfg w pool stages server) {i : ι}
    (hask : Creation.Askable server (w i)) (hi : stages i = .founding) :
    ¬ (server.session? (w i).session.name).isSome = true := by
  intro hs
  obtain ⟨stages', hstands, hended, -⟩ := h.go hask hi (if_pos hs) rfl
  have hok := (hsound [⟨i, .zero⟩]).ok i _ (hstands.result? hended)
  cases hok

/-- Two makings are not about to add the same window. -/
theorem ne_of_adding (h : Stands cfg w pool stages server) {i j : ι} (hne : i ≠ j)
    (hask : ∀ i, Creation.Askable server (w i)) (hi : stages i = .adding) (hj : stages j = .adding)
    (hsession : (w i).session.name = (w j).session.name)
    (hs : (server.session? (w i).session.name).isSome = true) : (w i).name ≠ (w j).name := by
  intro hname
  obtain ⟨x, hx⟩ := Option.isSome_iff_exists.1 hs
  let added := server.onSession (w i).session.name (addWindow (w i).name)
  have hthere : added.session? (w j).session.name = some (addWindow (w i).name x) := by
    rw [← hsession, session?_onSession (f := addWindow (w i).name) fun _ => rfl, hx]
    rfl
  obtain ⟨s₁, h₁, -, hrest⟩ := h.go (hask i) hi rfl (if_pos hs)
  have hj₁ : s₁ j = .adding := by rw [hrest j (Ne.symm hne), hj]
  have hask₁ : Creation.Askable added (w j) := (hask j).added (hask i)
  have heffect : Creation.adding.effect (w j) added =
      added.onSession (w j).session.name (addWindow (w j).name) := if_pos (by rw [hthere]; rfl)
  obtain ⟨s₂, h₂, -, -⟩ := h₁.go hask₁ hj₁ rfl heffect
  have honce := (hsound [⟨i, .zero⟩, ⟨j, .zero⟩]).once j
  obtain ⟨calls, hstate⟩ := h₂.state
  have htwice : ((pool.turn executor ⟨i, .zero⟩).turn executor ⟨j, .zero⟩).state.directory.windows
      (w j).session.name =
        server.directory.windows (w j).session.name ++ [(w j).name] ++ [(w j).name] := by
    rw [hstate]
    change (added.onSession _ _).directory.windows _ = _
    rw [windows_onSession_addWindow hthere, if_pos rfl, windows_onSession_addWindow hx,
      if_pos hsession.symm, hsession, hname]
  change List.count _ (((pool.turn executor _).turn executor _).state.directory.windows _) ≤ 1
    at honce
  rw [htwice, List.count_append, List.count_append] at honce
  simp at honce

end Sound

variable (cfg) in
/-- If nothing goes wrong in any interleaving, no making can be misled. -/
theorem raceless_of_sound (hask : ∀ i, Creation.Askable server (w i))
    (hsound : ∀ turns, Sound w ((makings cfg w server).interleave executor turns)) :
    Raceless w server := by
  have hstart := stands_makings cfg w server
  have hrunning : ∀ i, (server.session? (w i).session.name).isSome = true → server.running = true := by
    intro i hs
    by_contra hstopped
    have hlists : server.lists (w i).session.name = false :=
      Bool.eq_false_iff.2 fun h => hstopped ((Creation.lists_iff server _).1 h).1
    obtain ⟨turns, stages, h, hi, -⟩ := hstart.about_to_found (hask i) rfl hlists
    exact not_session_of_founding (sound_after hsound turns) h (hask i) hi hs
  refine ⟨?_, (hsound []).once, ?_⟩
  · by_cases hrun : server.running = true
    · exact .inl hrun
    · exact .inr fun i => Option.not_isSome_iff_eq_none.1 (mt (hrunning i) hrun)
  · intro i j hne hsession
    by_contra hrace
    obtain ⟨hwi, hwj, hrace⟩ : ¬ (server.window? (w i).target).isSome = true ∧
        ¬ (server.window? (w j).target).isSome = true ∧
        ((server.session? (w i).session.name).isSome = true → (w i).name = (w j).name) := by
      simpa only [not_or, not_and, not_not, ne_eq] using hrace
    by_cases hs : (server.session? (w i).session.name).isSome = true
    · have hlists : server.lists (w i).session.name = true :=
        (Creation.lists_iff server _).2 ⟨hrunning i hs, hs⟩
      obtain ⟨turns₁, s₁, h₁, hi₁, hrest₁⟩ := hstart.about_to_add (hask i) rfl hlists hwi
      obtain ⟨turns₂, s₂, h₂, hj₂, hrest₂⟩ := h₁.about_to_add (hask j)
        (hrest₁ j (Ne.symm hne)) (hsession ▸ hlists) hwj
      exact ne_of_adding (sound_after (sound_after hsound turns₁) turns₂) h₂ hne hask
        ((hrest₂ i hne).trans hi₁) hj₂ hsession hs (hrace hs)
    · have hlists : server.lists (w i).session.name = false :=
        Bool.eq_false_iff.2 fun h => hs ((Creation.lists_iff server _).1 h).2
      obtain ⟨turns₁, s₁, h₁, hi₁, hrest₁⟩ := hstart.about_to_found (hask i) rfl hlists
      obtain ⟨turns₂, s₂, h₂, hj₂, hrest₂⟩ := h₁.about_to_found (hask j)
        (hrest₁ j (Ne.symm hne)) (hsession ▸ hlists)
      obtain ⟨s₃, h₃, -, hrest₃⟩ := h₂.go (hask i) ((hrest₂ i hne).trans hi₁) rfl (if_neg hs)
      refine not_session_of_founding
        (sound_after (sound_after (sound_after hsound turns₁) turns₂) [⟨i, .zero⟩]) h₃
        ((hask j).founded (hask i)) ((hrest₃ j (Ne.symm hne)).trans hj₂) ?_
      rw [← hsession, ← mem_sessions_iff, directory_withSession]
      simp [Directory.sessions]

/-! ## All interleavings -/

theorem short_tmux (cfg : Tmux.Settings) (args : List String) : Short 1 (cfg.tmux args).run :=
  .ask fun _ => .done 0 _

theorem short_sessionNames (cfg : Tmux.Settings) : Short 1 cfg.sessionNames.run := by
  refine Short.seq (m := 1) (n := 0) (.ask fun _ => .done 0 _) fun o => ?_
  split
  · exact .done 0 _
  · split
    · exact .done 0 _
    · exact .done 0 _

theorem short_making (cfg : Tmux.Settings) (w : Tmux.Window) : Short 2 (w.making cfg).run := by
  refine Short.seq (m := 1) (n := 1) (short_sessionNames cfg) fun names => ?_
  split
  · exact Short.seq (n := 0) (short_tmux cfg _) fun _ => .done 0 _
  · exact Short.seq (n := 0) (short_tmux cfg _) fun _ => .done 0 _

/-- The making of a window is four questions at most. -/
theorem short_create (cfg : Tmux.Settings) (w : Tmux.Window) : Short 4 (w.create cfg).run := by
  rw [Tmux.window_create_eq]
  refine Short.seq (m := 1) (n := 3) (short_sessionNames cfg) fun names => ?_
  split
  · refine Short.seq (m := 1) (n := 2) (short_tmux cfg _) fun o => ?_
    split
    · exact .done 2 _
    · exact short_making cfg w
  · exact (short_making cfg w).mono (by decide)

theorem exists_turns [Fintype ι] (n : Nat) : ∃ turns : List (Turn ι), ∀ i, n ≤ Pool.turnsOf i turns := by
  refine ⟨Finset.univ.toList.flatMap fun i => List.replicate n ⟨i, .zero⟩, fun i => ?_⟩
  obtain ⟨before, after, hsplit⟩ := List.append_of_mem (Finset.mem_toList.2 (Finset.mem_univ i))
  have hown : Pool.turnsOf i (List.replicate n ⟨i, .zero⟩) = n := by
    simp [Pool.turnsOf, List.countP_replicate]
  rw [hsplit, List.flatMap_append, List.flatMap_cons, Pool.turnsOf, List.countP_append,
    List.countP_append, ← Pool.turnsOf, ← Pool.turnsOf, hown]
  omega

/-- Windows made side by side: every making is over after four turns of its own, and all interleavings
make all windows exactly if no making can be misled. -/
theorem creates_iff_raceless [Fintype ι] (cfg : Tmux.Settings) (w : ι → Tmux.Window)
    {server : Server} (hfail : server.failures = []) (hnames : server.PlainNames)
    (hsession : ∀ i, PlainSession (w i).session.name) (hwindow : ∀ i, PlainWindow (w i).name) :
    (∀ turns i, 4 ≤ Pool.turnsOf i turns →
      (((makings cfg w server).interleave executor turns).result? i).isSome = true) ∧
    ((∀ turns, (∀ i, (((makings cfg w server).interleave executor turns).result? i).isSome = true) →
      AllMade w server ((makings cfg w server).interleave executor turns)) ↔ Raceless w server) := by
  have hask : ∀ i, Creation.Askable server (w i) :=
    fun i => ⟨hfail, hnames, hsession i, hwindow i⟩
  have hover : ∀ turns i, 4 ≤ Pool.turnsOf i turns →
      (((makings cfg w server).interleave executor turns).result? i).isSome = true :=
    fun turns i hturns => Pool.isSome_result?_interleave (short_create cfg (w i)) hturns
  refine ⟨hover, fun h => raceless_of_sound cfg hask fun turns => ?_,
    fun h turns => allMade_of_raceless h hask⟩
  -- whatever has gone wrong by now is still wrong when all makings are over
  obtain ⟨rest, hrest⟩ := exists_turns (ι := ι) 4
  obtain ⟨stages, current, hstands, hask', -⟩ :=
    exists_stands_interleave (stands_makings cfg w server) hask turns
  obtain ⟨stages', last, hstands', -, hgrown⟩ := exists_stands_interleave hstands hask' rest
  have hend := h (turns ++ rest) fun i => hover _ i (by
    rw [Pool.turnsOf, List.countP_append]
    exact (hrest i).trans (Nat.le_add_left _ _))
  rw [Pool.interleave_append] at hend
  refine ⟨fun i r hr => ?_, fun i => ?_⟩
  · have hkept := Pool.result?_interleave executor hr rest
    rw [hend.ok i] at hkept
    exact (Option.some.inj hkept).symm
  · obtain ⟨calls, hstate⟩ := hstands.state
    obtain ⟨calls', hstate'⟩ := hstands'.state
    have honce := hend.once i
    rw [hstate'] at honce
    rw [hstate]
    exact ((hgrown _).sublist.count_le _).trans honce.le

/-- Two windows of two sessions can be made side by side on a new server. -/
theorem creates_iff_raceless_two_sessions :
    let w : Bool → Tmux.Window := fun b =>
      ⟨⟨if b then "main" else "logs", by cases b <;> decide⟩, "work", by decide⟩
    (∀ i, PlainSession (w i).session.name) ∧ (∀ i, PlainWindow (w i).name) ∧
      ∀ turns, (∀ i, (((makings {} w {}).interleave executor turns).result? i).isSome = true) →
        AllMade w {} ((makings {} w {}).interleave executor turns) := by
  intro w
  have hsession : ∀ i, PlainSession (w i).session.name := by
    intro i
    cases i <;> exact ⟨by decide, by decide, by decide⟩
  have hwindow : ∀ i, PlainWindow (w i).name := by
    intro i
    cases i <;> exact ⟨by decide, by decide⟩
  have hnames : Server.PlainNames {} := ⟨by simp, by simp⟩
  have hraceless : Raceless w {} := by
    refine ⟨.inr fun _ => rfl, fun _ => Nat.zero_le 1, fun i j hne hsame => ?_⟩
    revert i j
    decide
  exact ⟨hsession, hwindow, (creates_iff_raceless {} w rfl hnames hsession hwindow).2.2 hraceless⟩

/-- Two makings of one window on a new server: both are told of no session, and the second that asks for
one is refused. -/
theorem creates_of_one_window_refused :
    let w : Bool → Tmux.Window := fun _ => ⟨⟨"main", by decide⟩, "work", by decide⟩
    ∃ turns, ((makings {} w {}).interleave executor turns).result? false = some (.ok ()) ∧
      ((makings {} w {}).interleave executor turns).result? true = some (.error (refusal
        ["tmux", "new-session", "-d", "-s", "main", "-n", "work"] "duplicate session: main\n")) ∧
      ¬ AllMade w {} ((makings {} w {}).interleave executor turns) := by
  refine ⟨[⟨false, .zero⟩, ⟨false, .zero⟩, ⟨true, .zero⟩, ⟨true, .zero⟩, ⟨false, .zero⟩,
    ⟨true, .zero⟩], by rfl, by rfl, not_allMade_of_error (i := true) (e := refusal
      ["tmux", "new-session", "-d", "-s", "main", "-n", "work"] "duplicate session: main\n") (by rfl)⟩

end PaneRunner.Simulation
