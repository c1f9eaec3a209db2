import PaneRunner.Proofs.Shell.Commands
import PaneRunner.Simulation.Shell

/-
  Joined lines in the simulated shell. Unless a semicolon is exposed, a joined line is one command,
  and it is the command that its words spell (`commands_join_iff`). If one is, the line is cut in
  the middle of a word, and the rest of that word is run as a command of its own (`run_cut`).
  A cut `echo` never prints what a whole one does (`echo_cut_ne`): every command that prints has an
  `h` in its name which is not printed (`run_eq_nil_or_count_lt`), so what is run of the rest cannot
  print all of it.
-/
namespace PaneRunner.Simulation.Shell

open PaneRunner.Shell Text

variable {above below : List (List Char)} {p q : List Char}

/-- The commands of a script, one after another. -/
def commands (cs : List Char) : List Command :=
  (commandsOf cs).map fun part => Command.ofWords (wordsOf part)

theorem run_eq_flatMap (cs : List Char) : run cs = (commands cs).flatMap perform := by
  rw [run_eq, commands, List.flatMap_map]

/-! ## Joined lines -/

/-- A joined line is the command that its words spell exactly if no semicolon is exposed. -/
theorem commands_join_iff (ws : List (List Char)) :
    commands (joinWith [' '] (ws.map writeWord)) = [Command.ofWords ws] ↔
      ¬ Exposed .single ws.flatten := by
  rw [← exposed_join_iff]
  constructor
  · intro h hexposed
    obtain ⟨before, after, hline, hout, hfirst⟩ := hexposed.exists_first
    rw [hline, commands, commandsOf_of_first hfirst hout, List.map_cons, List.cons_eq_cons,
      List.map_eq_nil_iff] at h
    exact commandsOf_ne_nil after h.2
  · intro h
    rw [commands, commandsOf_eq_singleton_iff.2 h, List.map_singleton, wordsOf_joinWith]

theorem run_join_of_not_exposed {ws : List (List Char)} (h : ¬ Exposed .single ws.flatten) :
    run (joinWith [' '] (ws.map writeWord)) = perform (Command.ofWords ws) := by
  rw [run_eq_flatMap, (commands_join_iff ws).2 h, List.flatMap_singleton]

/-- A line that is cut prints what its words up to the cut spell, then what the rest does. -/
theorem run_cut (hout : Span.after .single (above.flatten ++ p) = .outside)
    (hfirst : ¬ Exposed .single (above.flatten ++ p)) :
    run (joinWith [' '] ((above ++ (p ++ ';' :: q) :: below).map writeWord)) =
      perform (Command.ofWords (above ++ [p])) ++
        run (q.flatMap quoteChar ++ '\x27' :: trailing below) := by
  rw [run_eq, commandsOf_joined hout hfirst, List.flatMap_cons, wordsOf_cut, ← run_eq]

/-! ## A letter of every command -/

theorem replacePair_cons_of_ne {a b new x : Char} (h : x ≠ a) (cs : List Char) :
    replacePair a b new (x :: cs) = x :: replacePair a b new cs := by
  cases cs with
  | nil => rfl
  | cons y cs => rw [replacePair, if_neg fun hpair => h hpair.1]

/-- A character that is in no pair parts a text in two. -/
theorem replacePair_append {a b new x : Char} (ha : x ≠ a) (hb : x ≠ b) (xs ys : List Char) :
    replacePair a b new (xs ++ x :: ys) =
      replacePair a b new xs ++ x :: replacePair a b new ys := by
  induction xs using replacePair.induct (a := a) (b := b) with
  | case1 c d rest h ih =>
    simp only [List.cons_append, replacePair, if_pos h, ih]
  | case2 c d rest h ih =>
    rw [List.cons_append, List.cons_append, replacePair, if_neg h, ← List.cons_append, ih,
      replacePair, if_neg h, List.cons_append]
  | case3 rest h =>
    rcases rest with _ | ⟨c, _ | ⟨d, rest⟩⟩
    · exact replacePair_cons_of_ne ha ys
    · have hpair : ¬ (c = a ∧ x = b) := fun hpair => hb hpair.2
      rw [List.cons_append, List.nil_append, replacePair, if_neg hpair, replacePair_cons_of_ne ha]
      rfl
    · exact absurd rfl (h c d rest)

theorem count_replacePair {a b new x : Char} (ha : x ≠ a) (hb : x ≠ b) (hnew : x ≠ new)
    (cs : List Char) : (replacePair a b new cs).count x = cs.count x := by
  induction cs using replacePair.induct (a := a) (b := b) with
  | case1 c d rest h ih =>
    obtain ⟨rfl, rfl⟩ := h
    rw [replacePair, if_pos ⟨rfl, rfl⟩, List.count_cons_of_ne hnew.symm, ih,
      List.count_cons_of_ne ha.symm, List.count_cons_of_ne hb.symm]
  | case2 c d rest h ih => rw [replacePair, if_neg h, List.count_cons, ih, ← List.count_cons]
  | case3 rest h =>
    rcases rest with _ | ⟨c, _ | ⟨d, rest⟩⟩
    · rfl
    · rfl
    · exact absurd rfl (h c d rest)

/-- What follows a semicolon is read for escapes by itself. -/
theorem unescape_append (xs ys : List Char) :
    unescape (xs ++ ';' :: ys) = unescape xs ++ ';' :: unescape ys := by
  unfold unescape
  rw [replacePair_append (by decide) (by decide), replacePair_append (by decide) (by decide),
    replacePair_append (by decide) (by decide)]

theorem count_unescape (cs : List Char) : (unescape cs).count 'h' = cs.count 'h' := by
  unfold unescape
  rw [count_replacePair (by decide) (by decide) (by decide),
    count_replacePair (by decide) (by decide) (by decide),
    count_replacePair (by decide) (by decide) (by decide)]

theorem count_flatMap_blank (ws : List (List Char)) :
    (ws.flatMap ([' '] ++ ·)).count 'h' = ws.flatten.count 'h' := by
  induction ws with
  | nil => rfl
  | cons w ws ih =>
    rw [List.flatMap_cons, List.count_append, ih, List.singleton_append,
      List.count_cons_of_ne (by decide), List.flatten_cons, List.count_append]

theorem count_joinWith (ws : List (List Char)) :
    (joinWith [' '] ws).count 'h' = ws.flatten.count 'h' := by
  cases ws with
  | nil => rfl
  | cons w ws =>
    rw [joinWith_cons, List.count_append, count_flatMap_blank, List.flatten_cons,
      List.count_append]

/-- What `echo` makes of the words behind its flags. -/
def EchoStyle.printed (style : EchoStyle) (text : List Char) : List Char :=
  (if style.escapes then unescape text else text) ++ if style.newline then ['\n'] else []

theorem EchoStyle.count_printed (style : EchoStyle) (text : List Char) :
    (style.printed text).count 'h' = text.count 'h' := by
  have hnewline : (if style.newline then ['\n'] else []).count 'h' = 0 := by
    cases style.newline <;> rfl
  rw [printed, List.count_append, hnewline, Nat.add_zero]
  split
  · exact count_unescape text
  · rfl

theorem eq_of_echoFlag? {w letters : List Char} (h : echoFlag? w = some letters) :
    w = '-' :: letters ∧ ∀ c ∈ letters, c = 'n' ∨ c = 'e' ∨ c = 'E' := by
  unfold echoFlag? at h
  split at h
  · rename_i c cs
    split at h
    · rename_i hall
      cases h
      refine ⟨rfl, fun x hx => ?_⟩
      have hletter := List.all_eq_true.1 hall x hx
      simpa [or_assoc] using hletter
    · cases h
  · cases h

/-- A character that is in no flag. -/
theorem not_mem_of_echoFlag? {w letters : List Char} (h : echoFlag? w = some letters) {x : Char}
    (hx : x ∉ ['-', 'n', 'e', 'E']) : x ∉ w := by
  obtain ⟨rfl, hletters⟩ := eq_of_echoFlag? h
  simp only [List.mem_cons, List.not_mem_nil, or_false, not_or] at hx
  intro hmem
  rcases List.mem_cons.1 hmem with rfl | hmem
  · exact hx.1 rfl
  · rcases hletters x hmem with rfl | rfl | rfl
    · exact hx.2.1 rfl
    · exact hx.2.2.1 rfl
    · exact hx.2.2.2 rfl

theorem echo_of_flag {style : EchoStyle} {w letters : List Char} (h : echoFlag? w = some letters)
    (ws : List (List Char)) :
    echo style (w :: ws) = echo (letters.foldl EchoStyle.set style) ws := by
  rw [echo, h]

theorem echo_of_text {style : EchoStyle} {w : List Char} (h : echoFlag? w = none)
    (ws : List (List Char)) :
    echo style (w :: ws) = style.printed (joinWith [' '] (w :: ws)) := by
  rw [echo, h]
  rfl

/-- `echo` prints every `h` of its words. -/
theorem count_echo (style : EchoStyle) (ws : List (List Char)) :
    (echo style ws).count 'h' = ws.flatten.count 'h' := by
  induction ws generalizing style with
  | nil =>
    rw [echo]
    cases style.newline <;> rfl
  | cons w ws ih =>
    cases hflag : echoFlag? w with
    | none => rw [echo_of_text hflag, EchoStyle.count_printed, count_joinWith]
    | some letters =>
      have hnone : w.count 'h' = 0 :=
        List.count_eq_zero.2 (not_mem_of_echoFlag? hflag (by decide))
      rw [echo_of_flag hflag, ih, List.flatten_cons, List.count_append, hnone, Nat.zero_add]

theorem Command.eq_of_echo {ws args : List (List Char)} (h : Command.ofWords ws = .echo args) :
    ws = "echo".toList :: args := by
  unfold Command.ofWords at h
  split at h
  · cases h
  · rename_i w rest
    split at h
    · rename_i hw
      cases h
      rw [hw]
    split at h
    · split at h
      · split at h <;> cases h
      · cases h
    · cases h

/-- If every part yields nothing or spends an `h`, so does the whole. -/
theorem count_flatMap_lt {f : List Char → List Char} {ps : List (List Char)}
    (h : ∀ p ∈ ps, f p = [] ∨ (f p).count 'h' < p.count 'h') :
    ps.flatMap f = [] ∨ (ps.flatMap f).count 'h' < ps.flatten.count 'h' := by
  induction ps with
  | nil => exact Or.inl rfl
  | cons p ps ih =>
    obtain ⟨hp, hps⟩ := List.forall_mem_cons.1 h
    rw [List.flatMap_cons, List.flatten_cons, List.count_append, List.count_append]
    rcases hp with hp | hp
    · rcases ih hps with hrest | hrest
      · exact Or.inl (by rw [hp, hrest]; rfl)
      · refine Or.inr ?_
        rw [hp, List.count_nil]
        omega
    · refine Or.inr ?_
      rcases ih hps with hrest | hrest
      · rw [hrest, List.count_nil]
        omega
      · omega

/-- A script that prints anything prints fewer `h` than it holds. -/
theorem run_eq_nil_or_count_lt (cs : List Char) :
    run cs = [] ∨ (run cs).count 'h' < cs.count 'h' := by
  induction hn : cs.length using Nat.strongRecOn generalizing cs with
  | ind n ih =>
    have hpart : ∀ part ∈ commandsOf cs, perform (Command.ofWords (wordsOf part)) = [] ∨
        (perform (Command.ofWords (wordsOf part))).count 'h' < part.count 'h' := by
      intro part hmem
      have hwords := (sublist_flatten_words part).count_le 'h'
      cases hcommand : Command.ofWords (wordsOf part) with
      | silent => exact Or.inl rfl
      | echo args =>
        rw [Command.eq_of_echo hcommand, List.flatten_cons, List.count_append,
          show "echo".toList.count 'h' = 1 from rfl] at hwords
        exact Or.inr (by rw [perform, count_echo]; omega)
      | script text =>
        obtain ⟨name, flag, rest, hname, hshell⟩ := Command.exists_of_script hcommand
        have hletter : 0 < name.count 'h' := by rcases hname with rfl | rfl <;> decide
        rw [hshell, List.flatten_cons, List.flatten_cons, List.flatten_cons, List.count_append,
          List.count_append, List.count_append] at hwords
        refine (ih _ (hn ▸ length_script_lt hmem hcommand) text rfl).imp_right fun hlt => ?_
        rw [perform]
        omega
    have hcommands := (sublist_flatten_commands cs).count_le 'h'
    rw [run_eq]
    exact (count_flatMap_lt hpart).imp_right fun hlt => by omega

/-! ## A cut echo -/

theorem count_quoteChar (c : Char) : (quoteChar c).count 'h' = [c].count 'h' := by
  by_cases hc : c = '\x27'
  · rw [hc]
    rfl
  · rw [quoteChar_of_ne hc]

theorem count_flatMap_quoteChar (cs : List Char) :
    (cs.flatMap quoteChar).count 'h' = cs.count 'h' := by
  induction cs with
  | nil => rfl
  | cons c cs ih =>
    rw [List.flatMap_cons, List.count_append, count_quoteChar, ih, ← List.count_append,
      List.singleton_append]

theorem count_writeWord (cs : List Char) : (writeWord cs).count 'h' = cs.count 'h' := by
  unfold writeWord
  split
  · rfl
  · rw [quoteWord, List.count_cons_of_ne (by decide), List.count_append, count_flatMap_quoteChar]
    rfl

theorem count_trailing (ws : List (List Char)) :
    (trailing ws).count 'h' = ws.flatten.count 'h' := by
  induction ws with
  | nil => rfl
  | cons w ws ih =>
    rw [trailing, List.flatMap_cons, List.count_append, ← trailing, ih,
      List.count_cons_of_ne (by decide), count_writeWord, List.flatten_cons, List.count_append]

/-- A word with a quote is no flag, so of words that hold a quote up to some place `echo` prints
what follows that place as it prints any text. -/
theorem exists_printed (h : '\x27' ∈ above.flatten ++ p) (style : EchoStyle) :
    ∃ (style' : EchoStyle) (front : List Char), ∀ tail below,
      echo style (above ++ (p ++ tail) :: below) =
        style'.printed (front ++ (tail ++ below.flatMap ([' '] ++ ·))) := by
  induction above generalizing style with
  | nil =>
    refine ⟨style, p, fun tail below => ?_⟩
    have hflag : echoFlag? (p ++ tail) = none := by
      rw [Option.eq_none_iff_forall_ne_some]
      intro letters hletters
      exact not_mem_of_echoFlag? hletters (by decide) (List.mem_append_left tail h)
    rw [List.nil_append, echo_of_text hflag, joinWith_cons, List.append_assoc]
  | cons w above ih =>
    cases hflag : echoFlag? w with
    | none =>
      refine ⟨style, w ++ (above ++ [p]).flatMap ([' '] ++ ·), fun tail below => ?_⟩
      rw [List.cons_append, echo_of_text hflag, joinWith_cons, List.flatMap_append,
        List.flatMap_append, List.flatMap_cons, List.flatMap_singleton]
      simp only [List.append_assoc]
    | some letters =>
      have hbehind : '\x27' ∈ above.flatten ++ p := by
        rw [List.flatten_cons, List.append_assoc] at h
        exact (List.mem_append.1 h).resolve_left (not_mem_of_echoFlag? hflag (by decide))
      obtain ⟨style', front, hprinted⟩ := ih hbehind (letters.foldl EchoStyle.set style)
      refine ⟨style', front, fun tail below => ?_⟩
      rw [List.cons_append, echo_of_flag hflag, hprinted]

/-- What a style prints of a text with a semicolon. -/
theorem EchoStyle.printed_append (style : EchoStyle) (xs ys : List Char) :
    ∃ start rest, style.printed xs = start ++ (if style.newline then ['\n'] else []) ∧
      style.printed (xs ++ ';' :: ys) =
        start ++ ';' :: rest ++ (if style.newline then ['\n'] else []) ∧
      rest.count 'h' = ys.count 'h' := by
  unfold printed
  split
  · exact ⟨unescape xs, unescape ys, rfl, by rw [unescape_append], count_unescape ys⟩
  · exact ⟨xs, ys, rfl, rfl, rfl⟩

/-- An `echo` that is cut does not print what the whole one does. -/
theorem echo_cut_ne (hquote : '\x27' ∈ above.flatten ++ p) :
    echo {} (above ++ [p]) ++ run (q.flatMap quoteChar ++ '\x27' :: trailing below) ≠
      echo {} (above ++ (p ++ ';' :: q) :: below) := by
  obtain ⟨style, front, hprinted⟩ := exists_printed hquote {}
  have hcut := hprinted [] []
  have hwhole := hprinted (';' :: q) below
  rw [List.append_nil, List.flatMap_nil, List.append_nil, List.append_nil] at hcut
  rw [List.cons_append] at hwhole
  obtain ⟨start, rest, hfront, hline, hcount⟩ :=
    style.printed_append front (q ++ below.flatMap ([' '] ++ ·))
  rw [hcut, hwhole, hfront, hline, List.append_assoc, List.append_assoc]
  intro h
  have h := List.append_cancel_left h
  cases hnewline : style.newline with
  | true =>
    rw [hnewline] at h
    exact absurd (List.cons.inj h).1 (by decide)
  | false =>
    rw [hnewline] at h
    have hrun : run (q.flatMap quoteChar ++ '\x27' :: trailing below) = ';' :: rest := by
      simpa using h
    -- the rest of the line would have to print every `h` that it holds
    rcases run_eq_nil_or_count_lt (q.flatMap quoteChar ++ '\x27' :: trailing below) with
      hnil | hlt
    · rw [hnil] at hrun
      cases hrun
    · rw [hrun, List.count_cons_of_ne (by decide), hcount, List.count_append, List.count_append,
        List.count_cons_of_ne (by decide), count_flatMap_quoteChar, count_trailing,
        count_flatMap_blank] at hlt
      exact absurd hlt (Nat.lt_irrefl _)

/-! ## Commands with a name -/

/-- A joined `echo` prints what its arguments print exactly if it is not cut. -/
theorem run_echo_iff (args : List (List Char)) :
    run (joinWith [' '] (("echo".toList :: args).map writeWord)) = echo {} args ↔
      ¬ Exposed .single args.flatten := by
  have hname : ∀ cs, Exposed .single ("echo".toList ++ cs) ↔ Exposed .single cs :=
    fun cs => exposed_append_of_plain (by decide) (by decide)
  constructor
  · intro h hexposed
    obtain ⟨above, p, q, below, rfl, hout, hfirst⟩ := hexposed.exists_word
    have hout' : Span.after .single (("echo".toList :: above).flatten ++ p) = .outside := by
      rwa [List.flatten_cons, List.append_assoc, Span.after_append,
        after_single_of_not_mem (by decide)]
    have hfirst' : ¬ Exposed .single (("echo".toList :: above).flatten ++ p) := by
      rwa [List.flatten_cons, List.append_assoc, hname]
    rw [← List.cons_append, run_cut hout' hfirst'] at h
    exact echo_cut_ne (quote_mem_of_after hout) h
  · intro h
    rw [run_join_of_not_exposed (by rwa [List.flatten_cons, hname])]
    rfl

/-- The words that hand a script to a shell. -/
def shellWords (script : List Char) : List (List Char) :=
  ["bash".toList, "-c".toList, script]

theorem run_shellWords {script : List Char} (h : ¬ Exposed .single script) :
    run (joinWith [' '] ((shellWords script).map writeWord)) = run script := by
  have hwords : (shellWords script).flatten = "bash-c".toList ++ script := by
    simp [shellWords]
  rw [run_join_of_not_exposed (by rwa [hwords, exposed_append_of_plain (by decide) (by decide)])]
  rfl

/-- A script ends at its first exposed semicolon, and the rest of it is run as it is written. -/
theorem run_shellWords_cut (hout : Span.after .single p = .outside)
    (hfirst : ¬ Exposed .single p) :
    run (joinWith [' '] ((shellWords (p ++ ';' :: q)).map writeWord)) =
      run p ++ run (q.flatMap quoteChar ++ ['\x27']) := by
  have hwords : ["bash".toList, "-c".toList].flatten ++ p = "bash-c".toList ++ p := by simp
  have hout' : Span.after .single (["bash".toList, "-c".toList].flatten ++ p) = .outside := by
    rwa [hwords, Span.after_append, after_single_of_not_mem (by decide)]
  have hfirst' : ¬ Exposed .single (["bash".toList, "-c".toList].flatten ++ p) := by
    rwa [hwords, exposed_append_of_plain (by decide) (by decide)]
  exact run_cut hout' hfirst'

/-- A joined line is run as the one command that its words spell, and of an `echo` it prints what
the words print, exactly if no semicolon of the words is exposed. A script that is handed to `bash`
prints what it prints by itself if none of its semicolons is exposed; at the first that is, it ends,
and what follows is run with its quotes written as in the joined line. -/
theorem run_join_iff (args : List String) (script : String) :
    (∀ argv : List String,
      commands (join argv).toList = [Command.ofWords (argv.map String.toList)] ↔
        ¬ Exposed .single (argv.map String.toList).flatten) ∧
    (run (join ("echo" :: args)).toList = echo {} (args.map String.toList) ↔
      ¬ Exposed .single (args.map String.toList).flatten) ∧
    (¬ Exposed .single script.toList →
      run (join ["bash", "-c", script]).toList = run script.toList) ∧
    ∀ p q, script.toList = p ++ ';' :: q → Span.after .single p = .outside →
      ¬ Exposed .single p →
        run (join ["bash", "-c", script]).toList =
          run p ++ run (q.flatMap quoteChar ++ ['\x27']) := by
  have hshell : (join ["bash", "-c", script]).toList =
      joinWith [' '] ((shellWords script.toList).map writeWord) := toList_join _
  refine ⟨fun argv => ?_, ?_, fun h => ?_, fun p q hscript hout hfirst => ?_⟩
  · rw [toList_join, commands_join_iff]
  · rw [toList_join, List.map_cons, run_echo_iff]
  · rw [hshell, run_shellWords h]
  · rw [hshell, hscript, run_shellWords_cut hout hfirst]

/-- Quotes in pairs hide semicolons; a single one exposes those behind it. -/
theorem run_join_iff_quotes :
    run (join ["echo", "it''s; fine", "a;b"]).toList =
        echo {} ["it''s; fine".toList, "a;b".toList] ∧
      run (join ["bash", "-c", "echo a; echo 'b'"]).toList = run "echo a; echo 'b'".toList ∧
      run (join ["bash", "-c", "echo 'a;b'"]).toList =
        run "echo 'a".toList ++ run "b'\\'''".toList := by
  obtain ⟨-, hecho, hscript, -⟩ := run_join_iff ["it''s; fine", "a;b"] "echo a; echo 'b'"
  obtain ⟨-, -, -, hcut⟩ := run_join_iff [] "echo 'a;b'"
  exact ⟨hecho.2 (by decide), hscript (by decide),
    hcut "echo 'a".toList "b'".toList (by decide) (by decide) (by decide)⟩

/-- An apostrophe before a semicolon: the rest of the word is lost. -/
theorem run_join_apostrophe :
    run (join ["echo", "it's;x"]).toList = "it's\n".toList ∧
      echo {} ["it's;x".toList] = "it's;x\n".toList ∧
      run (join ["bash", "-c", "echo 'a;b'"]).toList = "a\n".toList ∧
      run "echo 'a;b'".toList = "a;b\n".toList := by
  decide +kernel

end PaneRunner.Simulation.Shell
