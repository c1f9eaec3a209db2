import PaneRunner.Proofs.Shell.Joining

/-
  Where a command line falls apart into commands. The reader of commands knows quotes and no
  backslashes: `Span` is what it takes to be open, and it cuts at the semicolons that stand
  `Exposed`, outside of every span (`commandsOf_eq_singleton_iff`, `commandsOf_of_first`). A quote
  within a quoted word is written with an escaped quote, which this reader takes for the start of a
  span. So every quote of a word turns the reader from inside to outside or back, and of a joined
  line the cuts are those of its bare words read from within a quote (`exposed_join_iff`).
-/
namespace PaneRunner.Shell

open Text

/-! ## Spans -/

/-- What is open where a reader of commands stands. -/
inductive Span where
  | outside
  | single
  | double
  deriving DecidableEq, Repr

namespace Span

/-- The quote that closes the span. -/
def quote? : Span → Option Char
  | .outside => none
  | .single => some '\x27'
  | .double => some '\x22'

/-- What is open behind a character. -/
def next : Span → Char → Span
  | .outside, c => if c = '\x27' then .single else if c = '\x22' then .double else .outside
  | .single, c => if c = '\x27' then .outside else .single
  | .double, c => if c = '\x22' then .outside else .double

/-- What is open behind a text. -/
def after (s : Span) (cs : List Char) : Span := cs.foldl next s

theorem after_append (s : Span) (xs ys : List Char) :
    s.after (xs ++ ys) = (s.after xs).after ys := List.foldl_append

/-- Only quotes open and close spans. -/
theorem next_of_ne {c : Char} (hsingle : c ≠ '\x27') (hdouble : c ≠ '\x22') (s : Span) :
    s.next c = s := by
  cases s with
  | outside => rw [next, if_neg hsingle, if_neg hdouble]
  | single => rw [next, if_neg hsingle]
  | double => rw [next, if_neg hdouble]

/-- A second quote undoes the first. -/
@[simp] theorem next_next_quote (s : Span) : (s.next '\x27').next '\x27' = s := by
  cases s <;> rfl

end Span

/-! ## Cuts -/

/-- A semicolon stands outside of every span. -/
def Exposed (s : Span) (cs : List Char) : Prop :=
  ∃ before after, cs = before ++ ';' :: after ∧ s.after before = .outside

variable {s : Span} {cs xs ys before after : List Char}

theorem not_exposed_nil (s : Span) : ¬ Exposed s [] := by
  rintro ⟨before, after, h, -⟩
  exact absurd h (by simp)

theorem exposed_cons {c : Char} :
    Exposed s (c :: cs) ↔ (s = .outside ∧ c = ';') ∨ Exposed (s.next c) cs := by
  constructor
  · rintro ⟨before, after, h, hout⟩
    cases before with
    | nil =>
      rw [List.nil_append, List.cons_eq_cons] at h
      exact Or.inl ⟨hout, h.1⟩
    | cons d before =>
      rw [List.cons_append, List.cons_eq_cons] at h
      obtain ⟨rfl, h⟩ := h
      exact Or.inr ⟨before, after, h, hout⟩
  · rintro (⟨rfl, rfl⟩ | ⟨before, after, rfl, hout⟩)
    · exact ⟨[], cs, rfl, rfl⟩
    · exact ⟨c :: before, after, rfl, hout⟩

instance decidableExposed : (s : Span) → (cs : List Char) → Decidable (Exposed s cs)
  | s, [] => isFalse (not_exposed_nil s)
  | s, c :: cs =>
    have := decidableExposed (s.next c) cs
    decidable_of_iff _ exposed_cons.symm

theorem exposed_append : Exposed s (xs ++ ys) ↔ Exposed s xs ∨ Exposed (s.after xs) ys := by
  induction xs generalizing s with
  | nil => simp [not_exposed_nil, Span.after]
  | cons x xs ih =>
    rw [List.cons_append, exposed_cons, ih, exposed_cons, or_assoc]
    rfl

/-- The reader of commands goes on as its span does, but for a cut. -/
theorem scanCommands_cons (s : Span) (cur : List Char) (c : Char) (cs : List Char) :
    scanCommands s.quote? cur (c :: cs) =
      if s = .outside ∧ c = ';' then cur :: scanCommands none [] cs
      else scanCommands (s.next c).quote? (cur ++ [c]) cs := by
  cases s with
  | outside =>
    simp only [Span.quote?, scanCommands, Span.next, true_and]
    split
    · rfl
    by_cases hsingle : c = '\x27'
    · subst hsingle
      rfl
    by_cases hdouble : c = '\x22'
    · subst hdouble
      rfl
    · rw [if_neg (by simp [hsingle, hdouble]), if_neg hsingle, if_neg hdouble]
  | single =>
    rw [if_neg (by simp), Span.quote?, scanCommands, Span.next]
    split <;> rfl
  | double =>
    rw [if_neg (by simp), Span.quote?, scanCommands, Span.next]
    split <;> rfl

/-- Without an exposed semicolon there is one command. -/
theorem scanCommands_of_not_exposed (h : ¬ Exposed s cs) (cur : List Char) :
    scanCommands s.quote? cur cs = [cur ++ cs] := by
  induction cs generalizing s cur with
  | nil => cases s <;> simp [scanCommands]
  | cons c cs ih =>
    rw [exposed_cons, not_or] at h
    rw [scanCommands_cons, if_neg h.1, ih h.2, List.append_assoc, List.singleton_append]

/-- The first exposed semicolon ends the first command, and the next begins outside. -/
theorem scanCommands_of_first (h : ¬ Exposed s before) (hout : s.after before = .outside)
    (cur after : List Char) :
    scanCommands s.quote? cur (before ++ ';' :: after) = (cur ++ before) :: commandsOf after := by
  induction before generalizing s cur with
  | nil =>
    obtain rfl : s = .outside := hout
    rw [List.nil_append, scanCommands_cons, if_pos ⟨rfl, rfl⟩, List.append_nil, commandsOf]
  | cons c before ih =>
    rw [exposed_cons, not_or] at h
    rw [List.cons_append, scanCommands_cons, if_neg h.1, ih h.2 hout, List.append_assoc,
      List.singleton_append]

theorem commandsOf_of_first (h : ¬ Exposed .outside before)
    (hout : Span.after .outside before = .outside) (after : List Char) :
    commandsOf (before ++ ';' :: after) = before :: commandsOf after :=
  scanCommands_of_first h hout [] after

/-- Of the exposed semicolons there is a first. -/
theorem Exposed.exists_first (h : Exposed s cs) :
    ∃ before after, cs = before ++ ';' :: after ∧ s.after before = .outside ∧
      ¬ Exposed s before := by
  induction cs generalizing s with
  | nil => exact absurd h (not_exposed_nil s)
  | cons c cs ih =>
    by_cases hhere : s = .outside ∧ c = ';'
    · obtain ⟨rfl, rfl⟩ := hhere
      exact ⟨[], cs, rfl, rfl, not_exposed_nil _⟩
    · obtain ⟨before, after, rfl, hout, hfirst⟩ := ih ((exposed_cons.1 h).resolve_left hhere)
      exact ⟨c :: before, after, rfl, hout, by rw [exposed_cons, not_or]; exact ⟨hhere, hfirst⟩⟩

/-- A text is one command exactly if no semicolon is exposed. -/
theorem commandsOf_eq_singleton_iff : commandsOf cs = [cs] ↔ ¬ Exposed .outside cs := by
  constructor
  · intro h hexposed
    obtain ⟨before, after, rfl, hout, hfirst⟩ := hexposed.exists_first
    rw [commandsOf_of_first hfirst hout, List.cons_eq_cons] at h
    have hlength := congrArg List.length h.1
    rw [List.length_append, List.length_cons] at hlength
    omega
  · intro h
    exact scanCommands_of_not_exposed (s := .outside) h []

theorem commandsOf_ne_nil (cs : List Char) : commandsOf cs ≠ [] := by
  by_cases h : Exposed .outside cs
  · obtain ⟨before, after, rfl, hout, hfirst⟩ := h.exists_first
    rw [commandsOf_of_first hfirst hout]
    exact List.cons_ne_nil _ _
  · rw [commandsOf_eq_singleton_iff.2 h]
    exact List.cons_ne_nil _ _

/-! ## Written words -/

/-- A character between single quotes turns the reader as the bare character does: the three quotes
that stand for one open and close like one. -/
theorem after_quoteChar (s : Span) (c : Char) : s.after (quoteChar c) = s.next c := by
  by_cases hc : c = '\x27'
  · rw [hc, quoteChar_quote]
    cases s <;> rfl
  · rw [quoteChar_of_ne hc]
    rfl

theorem exposed_quoteChar {c : Char} : Exposed s (quoteChar c) ↔ s = .outside ∧ c = ';' := by
  by_cases hc : c = '\x27'
  · rw [hc, quoteChar_quote]
    cases s <;> decide
  · rw [quoteChar_of_ne hc, exposed_cons, or_iff_left (not_exposed_nil _)]

theorem after_flatMap_quoteChar (s : Span) (cs : List Char) :
    s.after (cs.flatMap quoteChar) = s.after cs := by
  induction cs generalizing s with
  | nil => rfl
  | cons c cs ih =>
    rw [List.flatMap_cons, Span.after_append, after_quoteChar, ih]
    rfl

theorem exposed_flatMap_quoteChar : Exposed s (cs.flatMap quoteChar) ↔ Exposed s cs := by
  induction cs generalizing s with
  | nil => rfl
  | cons c cs ih =>
    rw [List.flatMap_cons, exposed_append, exposed_quoteChar, after_quoteChar, ih, exposed_cons]

/-- A text without quotes leaves the reader where it is. -/
theorem after_of_plain (h : ∀ c ∈ cs, c ≠ '\x27' ∧ c ≠ '\x22') (s : Span) : s.after cs = s := by
  induction cs generalizing s with
  | nil => rfl
  | cons c cs ih =>
    obtain ⟨hc, hcs⟩ := List.forall_mem_cons.1 h
    change (s.next c).after cs = s
    rw [Span.next_of_ne hc.1 hc.2, ih hcs]

theorem not_exposed_of_not_mem (h : ';' ∉ cs) (s : Span) : ¬ Exposed s cs := by
  rintro ⟨before, after, rfl, -⟩
  exact h (by simp)

theorem after_of_isBare (h : isBare cs = true) (s : Span) : s.after cs = s :=
  after_of_plain (fun c hc =>
    have hsafe := (isBare_iff.1 h).2 c hc
    ⟨ne_of_isSafeChar hsafe (by decide), ne_of_isSafeChar hsafe (by decide)⟩) s

/-- Behind a written word the reader stands where the bare word takes it from within a quote. -/
theorem after_writeWord (s : Span) (cs : List Char) :
    s.after (writeWord cs) = ((s.next '\x27').after cs).next '\x27' := by
  unfold writeWord
  split
  · rename_i hbare
    rw [after_of_isBare hbare, after_of_isBare hbare, Span.next_next_quote]
  · change (s.next '\x27').after (cs.flatMap quoteChar ++ ['\x27']) = _
    rw [Span.after_append, after_flatMap_quoteChar]
    rfl

theorem exposed_writeWord : Exposed s (writeWord cs) ↔ Exposed (s.next '\x27') cs := by
  unfold writeWord
  split
  · rename_i hbare
    have hsemicolon := not_mem_of_isBare hbare
    exact iff_of_false (not_exposed_of_not_mem hsemicolon s) (not_exposed_of_not_mem hsemicolon _)
  · rw [quoteWord, exposed_cons, or_iff_right (by simp), exposed_append,
      exposed_flatMap_quoteChar, or_iff_left (not_exposed_of_not_mem (by decide) _)]

/-! ## Joined lines -/

/-- Written words, a blank behind each of them. -/
def written (ws : List (List Char)) : List Char := ws.flatMap fun w => writeWord w ++ [' ']

theorem after_blank (s : Span) : s.after [' '] = s := by cases s <;> rfl

theorem after_written (s : Span) (ws : List (List Char)) :
    s.after (written ws) = ((s.next '\x27').after ws.flatten).next '\x27' := by
  induction ws generalizing s with
  | nil => exact (Span.next_next_quote s).symm
  | cons w ws ih =>
    have hword : s.after (writeWord w ++ [' ']) = ((s.next '\x27').after w).next '\x27' := by
      rw [Span.after_append, after_writeWord, after_blank]
    rw [written, List.flatMap_cons, Span.after_append, hword, ← written, ih,
      Span.next_next_quote, List.flatten_cons, Span.after_append]

theorem exposed_written {ws : List (List Char)} :
    Exposed s (written ws) ↔ Exposed (s.next '\x27') ws.flatten := by
  induction ws generalizing s with
  | nil => exact iff_of_false (not_exposed_nil _) (not_exposed_nil _)
  | cons w ws ih =>
    have hblank : ∀ s, ¬ Exposed s [' '] := not_exposed_of_not_mem (by decide)
    rw [written, List.flatMap_cons, exposed_append, exposed_append, or_iff_left (hblank _),
      exposed_writeWord, ← written, ih, Span.after_append, after_writeWord, after_blank,
      Span.next_next_quote, List.flatten_cons, exposed_append]

/-- Written words, a blank before each of them. -/
def trailing (ws : List (List Char)) : List Char := ws.flatMap fun w => ' ' :: writeWord w

theorem joinWith_blank_cons (w : List Char) (ws : List (List Char)) :
    joinWith [' '] ((w :: ws).map writeWord) = writeWord w ++ trailing ws := by
  rw [List.map_cons, joinWith_cons, List.flatMap_map]
  rfl

theorem joinWith_blank_append (ws : List (List Char)) (w : List Char) (vs : List (List Char)) :
    joinWith [' '] ((ws ++ w :: vs).map writeWord) =
      written ws ++ writeWord w ++ trailing vs := by
  induction ws with
  | nil => exact joinWith_blank_cons w vs
  | cons u ws ih =>
    obtain ⟨v, rest, hrest⟩ : ∃ v rest, ws ++ w :: vs = v :: rest :=
      List.exists_cons_of_ne_nil (by simp)
    rw [hrest] at ih
    rw [List.cons_append, hrest, List.map_cons, List.map_cons, joinWith, ← List.map_cons, ih,
      written, written, List.flatMap_cons]
    simp only [List.append_assoc]

/-- Of a joined line those semicolons are exposed that are so in its bare words, one after another,
read from within a quote. -/
theorem exposed_join_iff (ws : List (List Char)) :
    Exposed .outside (joinWith [' '] (ws.map writeWord)) ↔ Exposed .single ws.flatten := by
  rcases List.eq_nil_or_concat ws with rfl | ⟨ws, w, rfl⟩
  · exact iff_of_false (not_exposed_nil _) (not_exposed_nil _)
  · have hline := joinWith_blank_append ws w []
    rw [trailing, List.flatMap_nil, List.append_nil] at hline
    rw [List.concat_eq_append, hline, exposed_append, exposed_written, exposed_writeWord,
      after_written, Span.next_next_quote, List.flatten_append, exposed_append,
      List.flatten_singleton]
    rfl

/-! ## The first cut of a joined line -/

/-- Nothing but a single quote leads out of single quotes. -/
theorem after_single_of_not_mem (h : '\x27' ∉ cs) : Span.after .single cs = .single := by
  induction cs with
  | nil => rfl
  | cons c cs ih =>
    rw [List.mem_cons, not_or] at h
    rw [Span.after, List.foldl_cons, Span.next, if_neg (Ne.symm h.1)]
    exact ih h.2

theorem quote_mem_of_after (h : Span.after .single cs = .outside) : '\x27' ∈ cs := by
  by_contra hnone
  rw [after_single_of_not_mem hnone] at h
  cases h

/-- A word without quotes and semicolons exposes nothing. -/
theorem exposed_append_of_plain (hquote : '\x27' ∉ xs) (hsemicolon : ';' ∉ xs) :
    Exposed .single (xs ++ ys) ↔ Exposed .single ys := by
  rw [exposed_append, or_iff_right (not_exposed_of_not_mem hsemicolon _),
    after_single_of_not_mem hquote]

/-- The first exposed semicolon stands in a word. -/
theorem Exposed.exists_word {ws : List (List Char)} (h : Exposed .single ws.flatten) :
    ∃ above p q below, ws = above ++ (p ++ ';' :: q) :: below ∧
      Span.after .single (above.flatten ++ p) = .outside ∧
      ¬ Exposed .single (above.flatten ++ p) := by
  obtain ⟨before, after, hws, hout, hfirst⟩ := h.exists_first
  rcases List.flatten_eq_append_iff.1 hws with
    ⟨above, below, rfl, rfl, hbelow⟩ | ⟨above, p, c, q, below, rfl, rfl, hafter⟩
  · obtain ⟨empty, q, below, rfl, hempty, -⟩ := List.flatten_eq_cons_iff.1 hbelow.symm
    have hnil : empty.flatten = [] := List.flatten_eq_nil_iff.2 hempty
    refine ⟨above ++ empty, [], q, below, by simp, ?_, ?_⟩
    · rwa [List.flatten_append, hnil, List.append_nil, List.append_nil]
    · rwa [List.flatten_append, hnil, List.append_nil, List.append_nil]
  · rw [List.cons_append, List.cons_eq_cons] at hafter
    obtain ⟨rfl, -⟩ := hafter
    exact ⟨above, p, q, below, rfl, hout, hfirst⟩

section Cut

variable {above below : List (List Char)} {p q : List Char}

/-- A joined line around a semicolon of a word. -/
theorem joinWith_semicolon (above below : List (List Char)) (p q : List Char) :
    joinWith [' '] ((above ++ (p ++ ';' :: q) :: below).map writeWord) =
      (written above ++ '\x27' :: p.flatMap quoteChar) ++
        ';' :: (q.flatMap quoteChar ++ '\x27' :: trailing below) := by
  have hbare : ¬ isBare (p ++ ';' :: q) = true := fun h => not_mem_of_isBare h (by simp)
  have hsemicolon : quoteChar ';' = [';'] := quoteChar_of_ne (by decide)
  rw [joinWith_blank_append, writeWord, if_neg hbare, quoteWord, List.flatMap_append,
    List.flatMap_cons, hsemicolon]
  simp only [List.append_assoc, List.cons_append, List.nil_append]

/-- A joined line is cut at the semicolon of a word that is the first exposed one. -/
theorem commandsOf_joined (hout : Span.after .single (above.flatten ++ p) = .outside)
    (hfirst : ¬ Exposed .single (above.flatten ++ p)) :
    commandsOf (joinWith [' '] ((above ++ (p ++ ';' :: q) :: below).map writeWord)) =
      (written above ++ '\x27' :: p.flatMap quoteChar) ::
        commandsOf (q.flatMap quoteChar ++ '\x27' :: trailing below) := by
  have hafter : Span.after .outside (written above ++ '\x27' :: p.flatMap quoteChar) =
      Span.after .single (above.flatten ++ p) := by
    rw [Span.after_append, after_written, Span.after, List.foldl_cons, Span.next_next_quote,
      ← Span.after, after_flatMap_quoteChar, Span.after_append]
    rfl
  have hexposed : Exposed .outside (written above ++ '\x27' :: p.flatMap quoteChar) ↔
      Exposed .single (above.flatten ++ p) := by
    have hquote : ∀ s : Span, ¬ (s = .outside ∧ '\x27' = ';') :=
      fun s h => absurd h.2 (by decide)
    rw [exposed_append, exposed_written, exposed_cons, or_iff_right (hquote _), after_written,
      Span.next_next_quote, exposed_flatMap_quoteChar, exposed_append]
    rfl
  rw [joinWith_semicolon, commandsOf_of_first (by rwa [hexposed]) (by rwa [hafter])]

theorem scanWords_written (ws : List (List Char)) (rest : List Char) :
    scanWords .plain none (written ws ++ rest) = ws ++ scanWords .plain none rest := by
  induction ws with
  | nil => rfl
  | cons w ws ih =>
    rw [written, List.flatMap_cons, ← written, List.append_assoc, List.append_assoc,
      scanWords_writeWord, List.singleton_append, scanWords, if_neg (by decide),
      if_neg (by decide), if_neg (by decide), if_pos (by decide), ih]
    rfl

/-- Up to the cut stand the words before it, and the last of them up to its semicolon. -/
theorem wordsOf_cut (above : List (List Char)) (p : List Char) :
    wordsOf (written above ++ '\x27' :: p.flatMap quoteChar) = above ++ [p] := by
  have hopen := scanWords_single [] p []
  rw [List.append_nil] at hopen
  rw [wordsOf, scanWords_written, scanWords, if_pos rfl, Option.getD_none, hopen]
  rfl

end Cut

end PaneRunner.Shell
