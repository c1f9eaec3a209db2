import PaneRunner.Proofs.Run.Once

/-
  Runs one after another in one window. A run leaves the window free for the next one
  (`Ready.after`), with a marker right above the prompt. If commands end with the first look at the
  pane, that marker is never seen without the next command's own, and every run comes back with its
  own output (`exists_calls`). A command that takes longer is taken for ended with the first look,
  and its run finds an empty capture (`ends_run_early`).
-/
namespace PaneRunner.Simulation

open Text Plan Server

/-- A marker stands right above the prompt. -/
def MarkedAbove (pane : List String) (marker : String) : Prop :=
  ∃ l, pane.dropLast.getLast? = some l ∧ marker.toList <+: l.toList

namespace Scene

variable {cfg : Tmux.Settings} {w : Tmux.Window} {server : Server} {x : Window} (sc : Scene)
  (log : List Server) {path : String} {files : List (String × Bytes)} {argv : List String}
  {flushes : Nat}

/-- With a marker above the prompt, the wait for a command that takes more than one look ends before
the command. -/
theorem ends_typeAndAwait_early (hquiet : server.Quiet) (hcfg : Workable cfg flushes)
    (hargv : ∀ a ∈ argv, '\n' ∉ a.toList) (hx : server.window? w.target = some x)
    (hidle : Idle sc.pane) (hinput : sc.input = "") (hlate : 1 < server.completionDelay)
    (habove : MarkedAbove sc.pane cfg.marker) :
    ∃ calls p, Ends (watching cfg w) (w.typeAndAwait cfg argv).run (sc.on server w.target, log)
      (.ok ())
      (({ sc.typed argv cfg.marker with pending := some p, calls } : Scene).on server w.target,
        log) := by
  obtain ⟨calls, hkeys⟩ := ends_enter sc log hquiet hx hidle hinput argv
  let p := underway server w.target argv cfg.marker
  have hentered : ({ sc.typed argv cfg.marker with calls } : Scene).enter server.captureDelay p =
      { sc.typed argv cfg.marker with pending := some p, calls } :=
    if_neg (Nat.ne_of_gt (Nat.zero_lt_of_lt hlate))
  have hlooked : ({ sc.typed argv cfg.marker with pending := some p, calls } : Scene).looked cfg w
      server.captureDelay =
        { sc.typed argv cfg.marker with
          pending := some { p with pollsLeft := p.pollsLeft - 1 }
          calls := look cfg w :: calls } := if_neg (Nat.sub_ne_zero_of_lt hlate)
  have hmarked : Marked (sc.typed argv cfg.marker).pane cfg.marker :=
    (marked_typed_iff hcfg.marker hcfg.not_dollar hargv fun l hl =>
      hidle.no_newline l (List.dropLast_subset _ hl)).2 habove
  refine ⟨look cfg w :: calls, { p with pollsLeft := p.pollsLeft - 1 }, Ends.seq hkeys ?_⟩
  rw [hentered, ← hlooked]
  refine ends_awaitMarker_now cfg _ log hquiet.failures hx (by simp [p, underway])
    hcfg.untimed ?_
  rw [hlooked]
  exact hmarked

/-- Then the pipe is closed while the command is under way, and the capture is found empty. -/
theorem ends_runInto_early (hquiet : server.Quiet) (hcfg : Workable cfg flushes)
    (hargv : ∀ a ∈ argv, '\n' ∉ a.toList) (hx : server.window? w.target = some x)
    (hidle : Idle sc.pane) (hinput : sc.input = "") (hdelayed : sc.delayed = none)
    (hlate : 1 < server.completionDelay) (habove : MarkedAbove sc.pane cfg.marker)
    (hfresh : ∀ f ∈ files, f.1 ≠ path) (hfiles : sc.files = files ++ [(path, [])])
    (acceptAny : Bool) :
    ∃ closed calls reads p, Ends (watching cfg w)
      (w.runInto cfg path argv acceptAny).run (sc.on server w.target, log)
      (.error (.captureFormat "expected at least 2 captured lines, got 0"))
      (({ sc.typed argv cfg.marker with
          pipe := none, pending := some p, files := files ++ [(path, [])], fileReads := reads,
          calls } : Scene).on server w.target, closed :: log) ∧
      closed.pending = some p := by
  obtain ⟨calls₁, o₁, hopen⟩ :=
    ends_openPipe cfg sc log hquiet.failures hx path
  let piped : Scene := { sc with pipe := some path, calls := calls₁ }
  obtain ⟨calls₂, p, hawait⟩ := ends_typeAndAwait_early piped log hquiet hcfg hargv hx
    hidle hinput hlate habove
  let waited : Scene := { piped.typed argv cfg.marker with pending := some p, calls := calls₂ }
  obtain ⟨calls₃, o₃, hclose⟩ :=
    ends_closePipe cfg waited log hquiet.failures hx
  obtain ⟨reads, hread⟩ := ends_captureLines_empty cfg w server
    { waited with pipe := none, calls := calls₃ } (waited.on server w.target :: log) hfresh
    hcfg.flush hfiles hdelayed
  have hempty : Tmux.readCapture [] cfg.marker =
      .error (.captureFormat "expected at least 2 captured lines, got 0") := by
    rw [Tmux.readCapture]
    congr 2
    decide +kernel
  refine ⟨waited.on server w.target, calls₃, reads, p, ?_, rfl⟩
  rw [← hfiles]
  refine Ends.seq hopen (Ends.seq (Ends.attempt hawait) (Ends.seq (Ends.attempt hclose)
    (Ends.seq (Ends.ofExcept _ _) (Ends.seq (Ends.ofExcept _ _) (Ends.seq hread
    (Ends.seq_error ?_))))))
  rw [hempty]
  exact Ends.ofExcept _ _

end Scene

namespace Server

variable {cfg : Tmux.Settings} {w : Tmux.Window} {server : Server} (log : List Server)
  {argv : List String} {flushes : Nat}

/-- A run of a command that takes more than one look, in a window with a marker above the prompt. -/
theorem ends_run_early {x : Window} (hready : server.Ready w) (hcfg : Workable cfg flushes)
    (hne : argv ≠ []) (hargv : ∀ a ∈ argv, '\n' ∉ a.toList)
    (hx : server.window? w.target = some x)
    (hlate : 1 < server.completionDelay) (habove : MarkedAbove x.pane cfg.marker)
    (acceptAny : Bool) :
    ∃ closed server', Ends (watching cfg w) (w.run cfg argv acceptAny).run (server, log)
      (.error (.captureFormat "expected at least 2 captured lines, got 0"))
      (server', closed :: log) ∧ closed.pending.isSome = true := by
  obtain ⟨hidle, hinput⟩ := hready.idle x hx
  have hsame : server.withWindow w = server := by rw [withWindow, hx, Option.isSome_some, if_pos rfl]
  obtain ⟨calls₁, hwhole⟩ := ends_run_of_runInto log hready hcfg hne (hsame.symm ▸ hx) hidle
    acceptAny
  rw [hsame] at hwhole
  let path := filePath (server.filesMade + 1)
  let sc : Scene := { Scene.of server x with
    files := server.files ++ [(path, [])], filesMade := server.filesMade + 1, calls := calls₁ }
  obtain ⟨closed, calls, reads, p, hrun, hpending⟩ := Scene.ends_runInto_early sc log hready.quiet
    hcfg hargv hx hidle hinput hready.quiet.delayed hlate habove
    hready.numbered.path_fresh rfl acceptAny
  have hend := hwhole { sc.typed argv cfg.marker with
    pipe := none, pending := some p, fileReads := reads, calls } rfl hrun
  exact ⟨closed, _, hend, by rw [hpending, Option.isSome_some]⟩

/-! ## What a run leaves -/

/-- A run changes neither what is arranged nor what is under way. -/
theorem exists_after (server : Server) (w : Tmux.Window) (argv : List String) (marker : String) :
    ∃ running sessions, server.after w argv marker =
      { server with running, sessions, filesMade := server.filesMade + 1 } := by
  obtain ⟨running, sessions, hmade⟩ := exists_withWindow server w
  exact ⟨_, _, by rw [Server.after, onWindow_eq, hmade]⟩

theorem window?_after (w : Tmux.Window) (server : Server) (argv : List String) (marker : String) :
    (server.after w argv marker).window? w.target =
      ((server.withWindow w).window? w.target).map
        fun x => x.after argv marker server.exitCode := by
  rw [← window?_onWindow (f := fun x => x.after argv marker server.exitCode) fun _ => rfl]
  exact window?_congr rfl

theorem idle_paneAfter {marker : String} (hm : Tmux.IsMarker marker)
    (hargv : ∀ a ∈ argv, '\n' ∉ a.toList) {pane : List String} (h : Idle pane) (code : Int32) :
    Idle (paneAfter pane argv marker code) where
  prompt := getLast?_append_shown _ _ _ _
  no_newline l hl := by
    rcases List.mem_append.1 hl with hl | hl
    · exact newline_not_mem_typed hm hargv
        (fun l hl => h.no_newline l (List.dropLast_subset _ hl)) l hl
    · exact newline_not_mem_shown code hm argv l hl

theorem markedAbove_paneAfter (pane argv : List String) (marker : String) (code : Int32) :
    MarkedAbove (paneAfter pane argv marker code) marker :=
  ⟨_, getLast?_dropLast_append_shown _ _ _ _, isPrefix_markerLine _ _⟩

/-- After a run everything is in place for the next one. -/
theorem Ready.after (h : server.Ready w) (hw : PlainWindow w.name) {marker : String}
    (hm : Tmux.IsMarker marker) (hargv : ∀ a ∈ argv, '\n' ∉ a.toList)
    (calls : List (List String)) (fileReads : Nat) :
    ({ server.after w argv marker with calls, fileReads } : Server).Ready w := by
  obtain ⟨running, sessions, hafter⟩ := exists_after server w argv marker
  have hplain : (server.after w argv marker).Plain :=
    have hmade := (h.plain.withWindow h.session hw).onWindow w.target
      (f := fun x => x.after argv marker server.exitCode) fun _ => rfl
    ⟨hmade.session, hmade.window, hmade.running⟩
  have hidle : ∀ x, (server.after w argv marker).window? w.target = some x →
      Idle x.pane ∧ x.input = "" := by
    intro x hx
    rw [window?_after] at hx
    obtain ⟨y, hy, rfl⟩ := Option.map_eq_some_iff.1 hx
    have hy := window_of_withWindow (P := fun x => Idle x.pane) h.session.no_colon hy idle_prompt
      fun x hx => (h.idle x hx).1
    exact ⟨idle_paneAfter hm hargv hy _, rfl⟩
  rw [hafter] at hplain hidle ⊢
  exact
    { quiet := ⟨h.quiet.pending, h.quiet.delayed, h.quiet.captureOverride, h.quiet.failures⟩
      plain := ⟨hplain.session, hplain.window, hplain.running⟩
      numbered := fun path hpath =>
        (h.numbered path hpath).imp fun n hn => ⟨Nat.le_succ_of_le hn.1, hn.2⟩
      session := h.session
      idle := hidle }

end Server

/-! ## Calls one after another -/

/-- A call that was made: what it came to, and the states, the latest first, in which it closed the
pipe of its window. -/
structure Call where
  argv : List String
  result : Except Tmux.Error Exec.Output
  closed : List Server

/-- Calls made one after another in a window, each by a caller that accepts every exit code. -/
inductive Calls (cfg : Tmux.Settings) (w : Tmux.Window) : Server → List Call → Server → Prop where
  | nil (server : Server) : Calls cfg w server [] server
  | cons {server server' server'' : Server} {c : Call} {cs : List Call}
      (h : Ends (watching cfg w) (w.run cfg c.argv true).run (server, []) c.result
        (server', c.closed))
      (hs : Calls cfg w server' cs server'') : Calls cfg w server (c :: cs) server''

/-- The argument vectors determine the calls. -/
theorem Calls.isPrefix {cfg : Tmux.Settings} {w : Tmux.Window} {server server' server'' : Server}
    {cs ds : List Call} (h : Calls cfg w server cs server') (h' : Calls cfg w server ds server'')
    (hargv : cs.map Call.argv <+: ds.map Call.argv) : cs <+: ds := by
  induction h generalizing ds with
  | nil => exact List.nil_prefix
  | @cons _ _ _ c cs hcall _ ih =>
    cases h' with
    | nil => simp at hargv
    | @cons _ _ _ d ds hcall' hcalls' =>
      rw [List.map_cons, List.map_cons, List.cons_prefix_cons] at hargv
      obtain ⟨argv, result, closed⟩ := c
      obtain ⟨argv', result', closed'⟩ := d
      obtain rfl : argv = argv' := hargv.1
      obtain ⟨hresult, hstate⟩ := Ends.unique hcall hcall'
      obtain rfl : result = result' := hresult
      obtain ⟨rfl, rfl⟩ := Prod.mk.inj hstate
      exact List.cons_prefix_cons.2 ⟨rfl, ih hcalls' hargv.2⟩

/-- The call closed the pipe once, after its own command had ended and its output had reached the
pane, and came back with the output and the code of this command. -/
structure Call.Own (c : Call) (w : Tmux.Window) (marker : String) (code : Int32) : Prop where
  closed : ∃ server pane, c.closed = [server] ∧ server.pending = none ∧
    (server.window? w.target).map Window.pane = some (paneAfter pane c.argv marker code)
  result : c.result = .ok { stdout := Utf8.encode (printed c.argv), code }

section Calls

variable {cfg : Tmux.Settings} {w : Tmux.Window} {server : Server} {flushes : Nat}

/-- A call whose command is not taken for ended too early. -/
theorem exists_call {argv : List String} (hready : server.Ready w) (hcfg : Workable cfg flushes)
    (hne : argv ≠ []) (hargv : ∀ a ∈ argv, '\n' ∉ a.toList)
    (hsettled : ∀ x, server.window? w.target = some x →
      Settled server.completionDelay x.pane cfg.marker)
    (hdelay : server.captureDelay ≤ flushes + 1) :
    ∃ (c : Call) (calls : List (List String)) (fileReads : Nat), c.argv = argv ∧
      c.Own w cfg.marker server.exitCode ∧
      Ends (watching cfg w) (w.run cfg c.argv true).run (server, []) c.result
        ({ server.after w argv cfg.marker with calls, fileReads }, c.closed) := by
  obtain ⟨closed, calls, fileReads, hrun, hpending, pane, hpane⟩ := Server.ends_run [] hready
    hcfg hne hargv hsettled hdelay true
  have hverdict : w.judge argv true ⟨Utf8.encode (printed argv), server.exitCode⟩ =
      .ok { stdout := Utf8.encode (printed argv), code := server.exitCode } := by
    rw [Tmux.Window.judge, if_neg fun h => by cases h.2]
  rw [hverdict] at hrun
  exact ⟨⟨argv, _, [closed]⟩, calls, fileReads, rfl, ⟨⟨closed, pane, rfl, hpending, hpane⟩, rfl⟩,
    hrun⟩

/-- If commands end with the first look, every call comes back with its own output. -/
theorem exists_calls {argvs : List (List String)} (hready : server.Ready w)
    (hw : PlainWindow w.name) (hcfg : Workable cfg flushes) (hsoon : server.completionDelay ≤ 1)
    (hdelay : server.captureDelay ≤ flushes + 1) (hne : ∀ argv ∈ argvs, argv ≠ [])
    (hargvs : ∀ argv ∈ argvs, ∀ a ∈ argv, '\n' ∉ a.toList) :
    ∃ calls server', Calls cfg w server calls server' ∧ calls.map Call.argv = argvs ∧
      ∀ c ∈ calls, c.Own w cfg.marker server.exitCode := by
  induction argvs generalizing server with
  | nil => exact ⟨[], server, .nil server, rfl, fun _ hc => by cases hc⟩
  | cons argv argvs ih =>
    have hargv := hargvs argv List.mem_cons_self
    obtain ⟨c, calls, fileReads, hc, hown, hcall⟩ := exists_call hready hcfg
      (hne argv List.mem_cons_self) hargv (fun _ _ => Or.inl hsoon) hdelay
    have hnext := hready.after hw hcfg.marker hargv calls fileReads
    obtain ⟨running, sessions, hafter⟩ := Server.exists_after server w argv cfg.marker
    rw [hafter] at hcall hnext
    obtain ⟨cs, server', hcalls, hmap, howns⟩ := ih hnext hsoon hdelay
      (fun argv h => hne argv (List.mem_cons_of_mem _ h))
      (fun argv h => hargvs argv (List.mem_cons_of_mem _ h))
    refine ⟨c :: cs, server', .cons hcall hcalls, by rw [List.map_cons, hc, hmap], fun d hd => ?_⟩
    rcases List.mem_cons.1 hd with rfl | hd
    · exact hown
    · exact howns d hd

end Calls

/-! ## Calls on a fresh server -/

section Fresh

variable {w : Tmux.Window} {looks : Nat} {code : Int32}

theorem window?_fresh (hs : ':' ∉ w.session.name.toList) (looks : Nat) (code : Int32) :
    ({ completionDelay := looks, exitCode := code } : Server).window? w.target = none := by
  rw [window?_target hs]
  rfl

theorem ready_fresh (hs : PlainSession w.session.name) (looks : Nat) (code : Int32) :
    ({ completionDelay := looks, exitCode := code } : Server).Ready w where
  quiet := ⟨rfl, rfl, rfl, rfl⟩
  plain := ⟨fun _ h => (by cases h), fun _ h => (by cases h), Or.inl rfl⟩
  numbered _ h := by cases h
  session := hs
  idle x hx := by
    rw [window?_fresh hs.no_colon] at hx
    cases hx

theorem isMarker_default : Tmux.IsMarker Tmux.defaultMarker :=
  Config.isMarker_of_validate (c := {}) (by decide)

theorem workable_fresh : Workable {} 20 := workable_default isMarker_default (by decide)

/-- The first call on a fresh server comes back with its own output, however long its command takes.
-/
theorem exists_first_call (hs : PlainSession w.session.name) {argv : List String} (hne : argv ≠ [])
    (hargv : ∀ a ∈ argv, '\n' ∉ a.toList) (looks : Nat) (code : Int32) :
    ∃ (c : Call) (calls : List (List String)) (fileReads : Nat), c.argv = argv ∧
      c.Own w Tmux.defaultMarker code ∧
      Ends (watching {} w) (w.run {} c.argv true).run
        ({ completionDelay := looks, exitCode := code }, []) c.result
        ({ ({ completionDelay := looks, exitCode := code } : Server).after w argv
            Tmux.defaultMarker with calls, fileReads }, c.closed) :=
  exists_call (ready_fresh hs looks code) workable_fresh hne hargv
    (fun x hx => by rw [window?_fresh hs.no_colon] at hx; cases hx) (Nat.zero_le _)

/-- If commands take more than one look, the second call takes the marker of the first for its own:
it closes the pipe while its command is under way, and finds its capture empty. -/
theorem exists_calls_early (hs : PlainSession w.session.name) (hw : PlainWindow w.name)
    {a b : List String} (ha : a ≠ []) (hb : b ≠ []) (ha' : ∀ s ∈ a, '\n' ∉ s.toList)
    (hb' : ∀ s ∈ b, '\n' ∉ s.toList) (hlate : 1 < looks) (code : Int32) :
    ∃ c d server', Calls {} w { completionDelay := looks, exitCode := code } [c, d] server' ∧
      c.argv = a ∧ d.argv = b ∧ c.Own w Tmux.defaultMarker code ∧
      d.result = .error (.captureFormat "expected at least 2 captured lines, got 0") ∧
      ∃ closed, d.closed = [closed] ∧ closed.pending.isSome = true := by
  obtain ⟨c, calls, fileReads, hc, hown, hfirst⟩ := exists_first_call hs ha ha' looks code
  have hready := (ready_fresh hs looks code).after hw isMarker_default ha' calls fileReads
  have hx := Server.window?_after w { completionDelay := looks, exitCode := code } a
    Tmux.defaultMarker
  rw [window?_withWindow hs.no_colon, Option.map_some] at hx
  obtain ⟨running, sessions, hafter⟩ := Server.exists_after
    { completionDelay := looks, exitCode := code } w a Tmux.defaultMarker
  rw [hafter] at hfirst hready hx
  obtain ⟨closed, server', hsecond, hpending⟩ := Server.ends_run_early [] hready
    workable_fresh hb hb' hx hlate (markedAbove_paneAfter _ a Tmux.defaultMarker code) true
  exact ⟨c, ⟨b, _, [closed]⟩, server', .cons hfirst (.cons hsecond (.nil _)), hc, rfl, hown, rfl,
    closed, rfl, hpending⟩

/-- The calls on a fresh server all come back with their own output exactly if commands end with the
first look, or if there is no second call. -/
theorem calls_own_iff (hs : PlainSession w.session.name) (hw : PlainWindow w.name)
    {argvs : List (List String)} (hne : ∀ argv ∈ argvs, argv ≠ [])
    (hargvs : ∀ argv ∈ argvs, ∀ a ∈ argv, '\n' ∉ a.toList) (looks : Nat) (code : Int32) :
    (∃ calls server', Calls {} w { completionDelay := looks, exitCode := code } calls server' ∧
      calls.map Call.argv = argvs ∧ ∀ c ∈ calls, c.Own w Tmux.defaultMarker code) ↔
      looks ≤ 1 ∨ argvs.length ≤ 1 := by
  constructor
  · rintro ⟨calls, server', hcalls, hmap, howns⟩
    match argvs, hne, hargvs, hmap with
    | [], _, _, _ => exact Or.inr (Nat.zero_le _)
    | [a], _, _, _ => exact Or.inr (Nat.le_refl _)
    | a :: b :: rest, hne, hargvs, hmap =>
      refine Or.inl (Nat.not_lt.1 fun hlate => ?_)
      obtain ⟨c, d, server'', hearly, hc, hd, -, -, closed, hclosed, hpending⟩ :=
        exists_calls_early hs hw (hne a (by simp)) (hne b (by simp)) (hargvs a (by simp))
          (hargvs b (by simp)) hlate code
      have hmade : [c, d] <+: calls :=
        hearly.isPrefix hcalls (by rw [hmap, ← hc, ← hd]; exact List.prefix_append [_, _] rest)
      obtain ⟨server, _, hone, hnone, -⟩ := (howns d (hmade.subset (by simp))).closed
      rw [hclosed, List.singleton_inj] at hone
      rw [hone, hnone] at hpending
      cases hpending
  · rintro (hsoon | hshort)
    · exact exists_calls (ready_fresh hs looks code) hw workable_fresh hsoon (Nat.zero_le _) hne
        hargvs
    · match argvs, hne, hargvs, hshort with
      | [], _, _, _ => exact ⟨[], _, .nil _, rfl, fun _ hc => by cases hc⟩
      | [argv], hne, hargvs, _ =>
        obtain ⟨c, calls, fileReads, hc, hown, hcall⟩ := exists_first_call hs
          (hne argv (by simp)) (hargvs argv (by simp)) looks code
        exact ⟨[c], _, .cons hcall (.nil _), by rw [List.map_singleton, hc],
          fun d hd => List.mem_singleton.1 hd ▸ hown⟩

/-- Commands that end with the first look. -/
theorem calls_own_one_look :
    ∃ calls server', Calls {} workWindow { completionDelay := 1, exitCode := 3 } calls server' ∧
      calls.map Call.argv = [["echo", "a"], ["false"], ["echo", "b"]] ∧
      ∀ c ∈ calls, c.Own workWindow Tmux.defaultMarker 3 :=
  have hsession : PlainSession workWindow.session.name := by decide
  have hwindow : PlainWindow workWindow.name := by decide
  have hargvs : ∀ argv ∈ [["echo", "a"], ["false"], ["echo", "b"]], ∀ a ∈ argv, '\n' ∉ a.toList := by
    decide
  (calls_own_iff hsession hwindow (by decide) hargvs 1 3).2 (Or.inl (Nat.le_refl 1))

/-- Commands that end with the second look: the second call does not come back with its output. -/
theorem second_call_not_own :
    ∃ c d server', Calls {} workWindow { completionDelay := 2 } [c, d] server' ∧
      c.argv = ["echo", "a"] ∧ d.argv = ["echo", "b"] ∧ ¬ d.Own workWindow Tmux.defaultMarker 0 ∧
      d.result = .error (.captureFormat "expected at least 2 captured lines, got 0") ∧
      ∃ closed, d.closed = [closed] ∧ closed.pending.isSome = true := by
  have hsession : PlainSession workWindow.session.name := by decide
  obtain ⟨c, d, server', hcalls, hc, hd, -, hresult, hclosed⟩ := exists_calls_early
    (a := ["echo", "a"]) (b := ["echo", "b"]) hsession (by decide) (by decide) (by decide)
    (by decide) (by decide) Nat.one_lt_two 0
  refine ⟨c, d, server', hcalls, hc, hd, fun hown => ?_, hresult, hclosed⟩
  rw [hown.result] at hresult
  cases hresult

end Fresh

end PaneRunner.Simulation
