import Mathlib.Logic.Function.Iterate
import PaneRunner.Proofs.Parallel.Steps
import PaneRunner.Proofs.Plan.Interleaving

/-
  Runs side by side in windows of their own. What no run changes stays (`Steady`), and every step of one
  run leaves the windows and the files of all others as they are, so what each run sees is what it would
  see alone (`Apart.turn`, `Apart.interleave`). Hence every run comes to what it comes to alone
  (`Apart.eq_of_views`), and when all are over no file of theirs is left (`Apart.files_eq`).
-/
namespace PaneRunner.Simulation

open Text Plan Server

/-- The server differs in nothing but what is in its windows and files, and what it has counted and
logged. -/
structure Steady (server current : Server) : Prop where
  rest : ∃ sessions calls files filesMade fileReads,
    current = { server with sessions, calls, files, filesMade, fileReads }
  directory : current.directory = server.directory

section Steady

variable {server current : Server} {cfg : Tmux.Settings} {job : Job}

theorem Steady.refl (server : Server) : Steady server server := ⟨⟨_, _, _, _, _, rfl⟩, rfl⟩

theorem Steady.on (h : Steady server current) {sc : Scene} (hpending : sc.pending = server.pending)
    (hdelayed : sc.delayed = server.delayed) (address : String) :
    Steady server (sc.on current address) := by
  obtain ⟨⟨sessions, calls, files, filesMade, fileReads, hrest⟩, hdirectory⟩ := h
  constructor
  · refine ⟨(current.onWindow address sc.window).sessions, sc.calls, sc.files, sc.filesMade,
      sc.fileReads, ?_⟩
    rw [Scene.on, hpending, hdelayed, hrest]
  · rw [← hdirectory]
    exact directory_onWindow current address (f := sc.window) fun _ => rfl

theorem Steady.calm (h : Steady server current) (hcalm : server.Calm) : current.Calm := by
  have hnames : current.PlainNames := by
    rw [plainNames_iff, h.directory, ← plainNames_iff]
    exact hcalm.names
  obtain ⟨⟨sessions, calls, files, filesMade, fileReads, rfl⟩, -⟩ := h
  exact ⟨hcalm.failures, hcalm.pending, hcalm.delayed, hcalm.completion, hcalm.capture, hnames⟩

theorem Steady.session? (h : Steady server current) (name : String) :
    (current.session? name).isSome = (server.session? name).isSome := by
  rw [Bool.eq_iff_iff, ← mem_sessions_iff, h.directory, mem_sessions_iff]

theorem Steady.window? (h : Steady server current) {w : Tmux.Window}
    (hcolon : ':' ∉ w.session.name.toList) :
    (current.window? w.target).isSome = (server.window? w.target).isSome := by
  rw [Bool.eq_iff_iff, ← mem_windows_iff hcolon, h.directory, mem_windows_iff hcolon]

theorem Steady.lists (h : Steady server current) (name : String) :
    current.lists name = server.lists name := by
  have hrunning : current.running = server.running := by
    obtain ⟨⟨sessions, calls, files, filesMade, fileReads, rfl⟩, -⟩ := h
    rfl
  rw [Bool.eq_iff_iff, Creation.lists_iff, Creation.lists_iff, hrunning, h.session?]

/-- What a run sees next does not depend on what runs change. -/
theorem Steady.next (h : Steady server current) (hcolon : ':' ∉ job.window.session.name.toList)
    (v : View) : job.next cfg current v = job.next cfg server v := by
  have hnext : ∀ c : Creation, c.next cfg job.window current = c.next cfg job.window server :=
    fun c => c.next_congr (h.lists _) (h.session? _) (h.window? hcolon)
  have hentered : ∀ typed, job.entered current typed = job.entered server typed := by
    obtain ⟨⟨sessions, calls, files, filesMade, fileReads, rfl⟩, -⟩ := h
    exact fun _ => rfl
  simp only [Job.next, hnext, hentered]

end Steady

variable {ι : Type} {cfg : Tmux.Settings} {jobs : ι → Job} {server : Server} {views : ι → View}
  {owns : ι → Option String} {pool : Pool Exec.Answer ι (Except Tmux.Error Exec.Output) Server}

variable (cfg jobs) in
/-- The runs before their first questions. -/
def runs (server : Server) : Pool Exec.Answer ι (Except Tmux.Error Exec.Output) Server :=
  Pool.start (fun i => (jobs i).run cfg) server

variable (cfg jobs server) in
/-- Every run has its own view, and no file is two runs' own or was there before. -/
structure Apart (views : ι → View) (owns : ι → Option String)
    (pool : Pool Exec.Answer ι (Except Tmux.Error Exec.Output) Server) : Prop where
  plans : ∀ i, pool.plans i =
    ⟨(jobs i).plan cfg ((owns i).getD "") (views i).stage, (views i).made⟩
  sees : ∀ i, ∃ x, pool.state.window? (jobs i).window.target = some x ∧
    Job.Sees cfg (jobs i) (owns i) (views i) (Scene.of pool.state x)
  idle : ∀ i c, (views i).stage = .creating c → c.Idle server (jobs i).window
  steady : Steady server pool.state
  numbered : pool.state.Numbered
  owned : Owned server.files owns pool.state.files

/-- A run's own file is there. -/
theorem Apart.mem_files (h : Apart cfg jobs server views owns pool) (i : ι) :
    ∀ path ∈ owns i, ∃ f ∈ pool.state.files, f.1 = path := by
  intro path hpath
  obtain ⟨x, -, hsees⟩ := h.sees i
  by_contra hnone
  have hlookup : pool.state.files.lookup path = none :=
    List.lookup_eq_none_iff.2 fun f hf => bne_iff_ne.2 fun e => hnone ⟨f, hf, e.symm⟩
  cases hlookup.symm.trans (hsees.content path hpath)

variable (cfg) in
/-- Before its first question a run sees its window. -/
theorem exists_apart_runs (hreach : Reachable server)
    (hthere : ∀ i, (server.window? (jobs i).window.target).isSome = true) :
    ∃ views, Apart cfg jobs server views (fun _ => none) (runs cfg jobs server) := by
  choose x hx using fun i => Option.isSome_iff_exists.1 (hthere i)
  refine ⟨fun i => (jobs i).start (x i), fun i => ?_, fun i => ⟨x i, hx i, Job.sees_start server _⟩,
    fun i c hc => ?_, .refl server, hreach.numbered, owned_none server.files⟩
  · exact congrArg (fun p => (⟨p, 0⟩ : Underway Exec.Answer (Except Tmux.Error Exec.Output)))
      Job.plan_first.symm
  · change (jobs i).first = .creating c at hc
    unfold Job.first at hc
    split at hc
    · cases hc
    · cases hc
      trivial

/-- Runs that see the same have come to the same, and their windows show the same. -/
theorem Apart.eq_of_views (hcolon : ∀ i, ':' ∉ (jobs i).window.session.name.toList)
    {views' : ι → View} {owns' : ι → Option String}
    {pool' : Pool Exec.Answer ι (Except Tmux.Error Exec.Output) Server}
    (h : Apart cfg jobs server views owns pool) (h' : Apart cfg jobs server views' owns' pool')
    {i : ι} (hviews : views i = views' i) :
    pool.result? i = pool'.result? i ∧
      ∃ x y, pool.state.window? (jobs i).window.target = some x ∧
        pool'.state.window? (jobs i).window.target = some y ∧
        x.pane = y.pane ∧ x.input = y.input ∧ ((pool.result? i).isSome = true → x = y) := by
  obtain ⟨x, hx, hsees⟩ := h.sees i
  obtain ⟨y, hy, hsees'⟩ := h'.sees i
  rw [← hviews] at hsees'
  have hresult : pool.result? i = pool'.result? i := by
    rw [Pool.result?, Pool.result?, h.plans i, h'.plans i, ← hviews]
    exact Job.result?_plan _ _ _
  have hpane : x.pane = y.pane := hsees.pane.trans hsees'.pane.symm
  have hinput : x.input = y.input := hsees.input.trans hsees'.input.symm
  refine ⟨hresult, x, y, hx, hy, hpane, hinput, fun hdone => ?_⟩
  have hpipe : x.pipe = y.pipe := by
    rw [Pool.result?, h.plans i] at hdone
    have hpiped : (views i).stage.piped = false :=
      Bool.eq_false_iff.2 fun h =>
        Bool.false_ne_true ((Job.filed_of_result? hdone).symm.trans (Stage.filed_of_piped h))
    have hx' := hsees.pipe
    have hy' := hsees'.pipe
    rw [hpiped, if_neg Bool.false_ne_true] at hx' hy'
    exact hx'.trans hy'.symm
  have hname : x.name = y.name :=
    (name_of_window? (hcolon i) hx).trans (name_of_window? (hcolon i) hy).symm
  obtain ⟨xname, xpane, xinput, xpipe⟩ := x
  obtain ⟨yname, ypane, yinput, ypipe⟩ := y
  cases hname
  cases hpane
  cases hinput
  cases hpipe
  rfl

/-- When all runs are over, the files are those that were there before. -/
theorem Apart.files_eq (h : Apart cfg jobs server views owns pool)
    (hdone : ∀ i, (pool.result? i).isSome = true) : pool.state.files = server.files := by
  refine h.owned.eq_base fun i => ?_
  obtain ⟨x, -, hsees⟩ := h.sees i
  have hresult := hdone i
  rw [Pool.result?, h.plans i] at hresult
  have hfiled := hsees.filed
  rw [Job.filed_of_result? hresult] at hfiled
  exact Option.not_isSome_iff_eq_none.1 (Bool.eq_false_iff.1 hfiled)

variable [DecidableEq ι]

section Turns

variable (hcfg : cfg.Untimed) (hcalm : server.Calm)
  (hsession : ∀ i, PlainSession (jobs i).window.session.name)
  (hwindow : ∀ i, PlainWindow (jobs i).window.name)
  (hapart : Function.Injective fun i => (jobs i).window)
include hcfg hcalm hsession hwindow hapart

/-- A step of one run takes its view to the next and leaves the views of the others. -/
theorem Apart.turn (h : Apart cfg jobs server views owns pool) (t : Turn ι) :
    ∃ owns', Apart cfg jobs server
      (Function.update views t.who ((jobs t.who).next cfg server (views t.who))) owns'
      (pool.turn executor t) := by
  obtain ⟨i, elapsed⟩ := t
  obtain ⟨x, hx, hsees⟩ := h.sees i
  have hcolon : ∀ j, ':' ∉ (jobs j).window.session.name.toList := fun j => (hsession j).no_colon
  have hidle : ∀ c, (views i).stage = .creating c → c.Idle pool.state (jobs i).window :=
    fun c hc => (h.idle i c hc).congr (h.steady.lists _)
  have hadvances : Job.Advances cfg (jobs i) pool.state elapsed (owns i) (views i) _ :=
    Job.advances (h.steady.calm hcalm) hx hsees hcfg h.numbered (hsession i) (hwindow i) hidle
  obtain ⟨own', sc', hstep, hsees', hfiles, hpending, hdelayed⟩ := hadvances
  rw [← h.plans i, h.steady.next (hcolon i)] at hstep
  rw [h.steady.next (hcolon i)] at hsees'
  have hstate : (pool.turn executor ⟨i, elapsed⟩).state = sc'.on pool.state (jobs i).window.target :=
    congrArg Prod.snd hstep
  refine ⟨Function.update owns i own', ?_, ?_, ?_, ?_, ?_, ?_⟩
  · intro j
    by_cases hj : j = i
    · subst hj
      rw [Pool.plans_turn_self, Function.update_self, Function.update_self]
      exact congrArg Prod.fst hstep
    · rw [Pool.plans_turn_of_ne pool (t := ⟨i, elapsed⟩) hj, Function.update_of_ne hj,
        Function.update_of_ne hj]
      exact h.plans j
  · intro j
    rw [hstate]
    by_cases hj : j = i
    · subst hj
      rw [Function.update_self, Function.update_self]
      exact ⟨_, Scene.window?_on hx, hsees'⟩
    · obtain ⟨y, hy, hseesj⟩ := h.sees j
      rw [Function.update_of_ne hj, Function.update_of_ne hj]
      refine ⟨y, ?_, hseesj.pane, hseesj.input, hseesj.pipe, hseesj.filed, fun path hpath => ?_⟩
      · rw [Scene.window?_on_of_ne (hcolon i) (hcolon j) fun e => hj (hapart e)]
        exact hy
      · exact (h.owned.lookup h.mem_files hfiles hj hpath).trans (hseesj.content path hpath)
  · intro j c hc
    by_cases hj : j = i
    · subst hj
      rw [Function.update_self] at hc
      have hthere : (server.window? (jobs j).window.target).isSome = true := by
        rw [← h.steady.window? (hcolon j), hx]
        rfl
      exact Job.idle_next (hcolon j) hthere (h.idle j) hc
    · rw [Function.update_of_ne hj] at hc
      exact h.idle j c hc
  · rw [hstate]
    exact h.steady.on (hpending.trans hcalm.pending.symm) (hdelayed.trans hcalm.delayed.symm) _
  · exact Underway.step_preserves (fun r s hs => hs.executor r) elapsed _ h.numbered
  · rw [hstate]
    exact h.owned.step h.mem_files hfiles

/-- After as many steps as a run was given its view is that many views further. -/
theorem Apart.interleave (h : Apart cfg jobs server views owns pool) (turns : List (Turn ι)) :
    ∃ owns', Apart cfg jobs server
      (fun i => ((jobs i).next cfg server)^[Pool.turnsOf i turns] (views i)) owns'
      (pool.interleave executor turns) := by
  induction turns generalizing views owns pool with
  | nil => exact ⟨owns, h⟩
  | cons t turns ih =>
    obtain ⟨owns', hturned⟩ := h.turn hcfg hcalm hsession hwindow hapart t
    obtain ⟨owns'', hall⟩ := ih hturned
    refine ⟨owns'', ?_⟩
    have hviews : (fun i => ((jobs i).next cfg server)^[Pool.turnsOf i (t :: turns)] (views i)) =
        fun i => ((jobs i).next cfg server)^[Pool.turnsOf i turns]
          (Function.update views t.who ((jobs t.who).next cfg server (views t.who)) i) := by
      funext i
      rw [Pool.turnsOf, List.countP_cons]
      by_cases hi : i = t.who
      · subst hi
        rw [Function.update_self, if_pos (decide_eq_true rfl), Function.iterate_succ_apply]
        rfl
      · rw [Function.update_of_ne hi, if_neg (by simpa using Ne.symm hi)]
        rfl
    rw [hviews]
    exact hall

end Turns

variable (cfg) in
/-- Some steps of one run that is alone. -/
def alone (job : Job) (server : Server) (elapsed : List Duration) :
    Underway Exec.Answer (Except Tmux.Error Exec.Output) × Server :=
  Underway.steps executor elapsed ({ plan := job.run cfg }, server)

/-- Runs in different windows do not disturb each other, however their requests are interleaved. After
as many steps as alone a run has come to the same and its window shows the same; once it has returned,
its window is the same altogether. A run that returns alone returns the same side by side with others.
And when all runs have returned, the files are those that were there before. -/
theorem runs_as_alone (hcfg : cfg.Untimed) (hreach : Reachable server) (hcalm : server.Calm)
    (hsession : ∀ i, PlainSession (jobs i).window.session.name)
    (hwindow : ∀ i, PlainWindow (jobs i).window.name)
    (hthere : ∀ i, (server.window? (jobs i).window.target).isSome = true)
    (hapart : Function.Injective fun i => (jobs i).window) :
    (∀ turns i elapsed, elapsed.length = Pool.turnsOf i turns →
      let pool := (runs cfg jobs server).interleave executor turns
      let solo := alone cfg (jobs i) server elapsed
      pool.result? i = solo.1.result? ∧
        ∃ x y, pool.state.window? (jobs i).window.target = some x ∧
          solo.2.window? (jobs i).window.target = some y ∧
          x.pane = y.pane ∧ x.input = y.input ∧ (solo.1.result?.isSome = true → x = y)) ∧
    (∀ i r server', Ends executor ((jobs i).run cfg) server r server' →
      ∃ n, ∀ turns, n ≤ Pool.turnsOf i turns →
        let pool := (runs cfg jobs server).interleave executor turns
        pool.result? i = some r ∧
          pool.state.window? (jobs i).window.target = server'.window? (jobs i).window.target) ∧
    ∀ turns, (∀ i, (((runs cfg jobs server).interleave executor turns).result? i).isSome = true) →
      ((runs cfg jobs server).interleave executor turns).state.files = server.files := by
  have hcolon : ∀ i, ':' ∉ (jobs i).window.session.name.toList := fun i => (hsession i).no_colon
  obtain ⟨views, hstart⟩ := exists_apart_runs cfg hreach hthere
  have hall := hstart.interleave hcfg hcalm hsession hwindow hapart
  have halone : ∀ turns i elapsed, elapsed.length = Pool.turnsOf i turns →
      let pool := (runs cfg jobs server).interleave executor turns
      let solo := alone cfg (jobs i) server elapsed
      pool.result? i = solo.1.result? ∧
        ∃ x y, pool.state.window? (jobs i).window.target = some x ∧
          solo.2.window? (jobs i).window.target = some y ∧
          x.pane = y.pane ∧ x.input = y.input ∧ (solo.1.result?.isSome = true → x = y) := by
    intro turns i elapsed hlength
    obtain ⟨owns, happart⟩ := hall turns
    obtain ⟨owns', hown⟩ := hall (elapsed.map fun t => ⟨i, t⟩)
    obtain ⟨hplan, hstate⟩ := Pool.interleave_own executor (runs cfg jobs server) i elapsed
    have hsame := happart.eq_of_views hcolon hown (i := i) (by rw [Pool.turnsOf_own, hlength])
    rw [Pool.result?, Pool.result?, hplan, hstate] at hsame
    obtain ⟨hresult, x, y, hx, hy, hpane, hinput, hdone⟩ := hsame
    exact ⟨hresult, x, y, hx, hy, hpane, hinput, fun h => hdone (hresult ▸ h)⟩
  refine ⟨halone, ?_, ?_⟩
  · intro i r server' hends
    obtain ⟨ts, hts⟩ := hends.exists_steps
    refine ⟨ts.length, fun turns hturns => ?_⟩
    -- turns that are left when the run has returned change nothing of it any more
    let late := List.replicate (Pool.turnsOf i turns - ts.length) Duration.zero
    have hsolo : alone cfg (jobs i) server (ts ++ late) = ({ plan := .done r }, server') := by
      rw [alone, Underway.steps_append, hts]
      exact Underway.steps_of_result? rfl executor late server'
    have hlength : (ts ++ late).length = Pool.turnsOf i turns := by
      rw [List.length_append, List.length_replicate]
      omega
    obtain ⟨hresult, x, y, hx, hy, -, -, hdone⟩ := halone turns i (ts ++ late) hlength
    rw [hsolo] at hresult hy hdone
    exact ⟨hresult, by rw [hx, hy, hdone rfl]⟩
  · intro turns hdone
    obtain ⟨owns, h⟩ := hall turns
    exact h.files_eq hdone

/-- The same command in two windows of one session. -/
theorem runs_as_alone_two_windows :
    let server := Arrangement.apply {} (.session "main" ["work", "logs"])
    let jobs : Bool → Job := fun i =>
      ⟨⟨⟨"main", by decide⟩, if i then "work" else "logs", by cases i <;> decide⟩, ["date"], i⟩
    Reachable server ∧ server.Calm ∧ (∀ i, PlainSession (jobs i).window.session.name) ∧
      (∀ i, PlainWindow (jobs i).window.name) ∧
      (∀ i, (server.window? (jobs i).window.target).isSome = true) ∧
      (Function.Injective fun i => (jobs i).window) ∧
      ∀ turns i elapsed, elapsed.length = Pool.turnsOf i turns →
        ((runs {} jobs server).interleave executor turns).result? i =
          (alone {} (jobs i) server elapsed).1.result? := by
  intro server jobs
  have hreach : Reachable server := Reachable.fresh.arranged (.session "main" ["work", "logs"])
  have hcalm : server.Calm := ⟨rfl, rfl, rfl, rfl, rfl, (plainNames_iff server).2 (by decide)⟩
  have hsession : ∀ i, PlainSession (jobs i).window.session.name := by decide
  have hwindow : ∀ i, PlainWindow (jobs i).window.name := by decide
  have hthere : ∀ i, (server.window? (jobs i).window.target).isSome = true := by decide
  have hapart : Function.Injective fun i => (jobs i).window := by
    unfold Function.Injective
    decide
  exact ⟨hreach, hcalm, hsession, hwindow, hthere, hapart, fun turns i elapsed hlength =>
    ((runs_as_alone Tmux.Settings.untimed_default hreach hcalm hsession hwindow hthere hapart).1 turns
      i elapsed hlength).1⟩

end PaneRunner.Simulation
