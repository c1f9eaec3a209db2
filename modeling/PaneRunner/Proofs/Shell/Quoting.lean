import PaneRunner.Proofs.Text.Search
import PaneRunner.Proofs.Text.Utf8
import PaneRunner.Shell.Words
import PaneRunner.Tmux.Marker

/-
  Quoted words and the typed line. A quoted word is read back as it was (`words_quote`). In a joined
  command line a semicolon stands only between quotes, and the quote that closes them does not go on
  as the quote in the marker command does (`InQuotes.not_isPrefix`), so the typed line falls apart
  at its first marker command into the command and the marker (`splitOnce?_commandLine`).
-/
namespace PaneRunner.Shell

open Text

theorem toList_join (argv : List String) :
    (join argv).toList = joinWith [' '] ((argv.map String.toList).map writeWord) := by
  rw [join, String.toList_ofList, List.map_map]
  rfl

/-! ## Reading quoted words -/

theorem quoteChar_quote : quoteChar '\x27' = ['\x27', '\x5c', '\x27', '\x27'] := rfl

theorem quoteChar_of_ne {c : Char} (h : c ≠ '\x27') : quoteChar c = [c] := if_neg h

/-- What stands between quotes is taken as it is, and the quotes are still open behind it. -/
theorem scanWords_single (w cs rest : List Char) :
    scanWords .single (some w) (cs.flatMap quoteChar ++ rest) =
      scanWords .single (some (w ++ cs)) rest := by
  induction cs generalizing w with
  | nil => simp
  | cons c cs ih =>
    rw [List.flatMap_cons, List.append_assoc]
    by_cases hc : c = '\x27'
    · rw [hc, quoteChar_quote]
      simp only [List.cons_append, List.nil_append, scanWords, if_true, extend, Option.getD_some]
      rw [if_neg (by decide), if_neg (by decide), ih, List.append_assoc]
      rfl
    · rw [quoteChar_of_ne hc, List.singleton_append, scanWords, if_neg hc, extend,
        Option.getD_some, ih, List.append_assoc]
      rfl

theorem scanWords_quoteWord (cur : Option (List Char)) (cs rest : List Char) :
    scanWords .plain cur (quoteWord cs ++ rest) =
      scanWords .plain (some (cur.getD [] ++ cs)) rest := by
  rw [quoteWord, List.cons_append, scanWords, if_pos rfl, List.append_assoc,
    List.singleton_append, scanWords_single, scanWords, if_pos rfl]

/-- A quoted text is read as one word. -/
theorem words_quote (s : String) : words (quote s) = [s] := by
  have h := scanWords_quoteWord none s.toList []
  rw [List.append_nil] at h
  rw [words, wordsOf, quote, String.toList_ofList, h]
  simp [scanWords]

/-- A quoted text before a blank is read as one word. -/
theorem words_quote_append (s rest : String) :
    words (quote s ++ (" " ++ rest)) = s :: words rest := by
  have h := scanWords_quoteWord none s.toList (' ' :: rest.toList)
  have hlist : (quote s ++ (" " ++ rest)).toList = quoteWord s.toList ++ ' ' :: rest.toList := by
    simp [quote]
  rw [words, wordsOf, hlist, h, scanWords, if_neg (by decide), if_neg (by decide),
    if_neg (by decide), if_pos (by decide)]
  simp [words, wordsOf]

/-! ## Semicolons in a command line -/

/-- A text that begins between quotes: the quotes close where a word ends. -/
def InQuotes (t : List Char) : Prop :=
  ∃ cs after : List Char, t = cs.flatMap quoteChar ++ '\x27' :: after ∧
    (after = [] ∨ ∃ more, after = ' ' :: more)

theorem InQuotes.append_blank {t : List Char} (h : InQuotes t) (more : List Char) :
    InQuotes (t ++ ' ' :: more) := by
  obtain ⟨cs, after, rfl, hafter⟩ := h
  refine ⟨cs, after ++ ' ' :: more, by simp, Or.inr ?_⟩
  rcases hafter with rfl | ⟨rest, rfl⟩
  · exact ⟨more, rfl⟩
  · exact ⟨rest ++ ' ' :: more, rfl⟩

/-- From between quotes no text is read that has a quote, a backslash and a letter one after
another, unless it has a quote before. -/
theorem InQuotes.not_isPrefix {t : List Char} (h : InQuotes t) {before : List Char}
    (hbefore : '\x27' ∉ before) {letter : Char} (hletter : letter ≠ '\x27') (rest : List Char) :
    ¬ before ++ ['\x27', '\x5c', letter] <+: t ++ ';' :: rest := by
  obtain ⟨cs, after, rfl, hafter⟩ := h
  rw [List.append_assoc]
  induction before generalizing cs with
  | nil =>
    intro hp
    cases cs with
    | nil =>
      rcases hafter with rfl | ⟨more, rfl⟩
      · simp at hp
      · simp at hp
    | cons c cs =>
      by_cases hc : c = '\x27'
      · rw [hc] at hp
        simp [quoteChar_quote, hletter] at hp
      · rw [List.flatMap_cons, quoteChar_of_ne hc] at hp
        simp only [List.nil_append, List.cons_append, List.cons_prefix_cons] at hp
        exact hc hp.1.symm
  | cons x before ih =>
    rw [List.mem_cons, not_or] at hbefore
    intro hp
    cases cs with
    | nil =>
      simp only [List.flatMap_nil, List.nil_append, List.cons_append, List.cons_prefix_cons] at hp
      exact hbefore.1 hp.1.symm
    | cons c cs =>
      by_cases hc : c = '\x27'
      · rw [hc, List.flatMap_cons, quoteChar_quote] at hp
        simp only [List.cons_append, List.cons_prefix_cons] at hp
        exact hbefore.1 hp.1.symm
      · rw [List.flatMap_cons, quoteChar_of_ne hc] at hp
        simp only [List.cons_append, List.nil_append, List.cons_prefix_cons] at hp
        exact ih hbefore.2 cs hp.2

theorem not_mem_of_isBare {cs : List Char} (h : isBare cs = true) : ';' ∉ cs := by
  rw [isBare, Bool.and_eq_true, List.all_eq_true] at h
  exact fun hmem => absurd (h.2 _ hmem) (by decide)

theorem inQuotes_of_quoteWord {cs l t : List Char} (h : quoteWord cs = l ++ ';' :: t) :
    InQuotes t := by
  have key : ∀ (cs l : List Char), cs.flatMap quoteChar ++ ['\x27'] = l ++ ';' :: t →
      InQuotes t := by
    intro cs
    induction cs with
    | nil =>
      intro l h
      have hmem : ';' ∈ ['\x27'] := (show ['\x27'] = l ++ ';' :: t from h) ▸ by simp
      exact absurd hmem (by decide)
    | cons c cs ih =>
      intro l h
      rw [List.flatMap_cons, List.append_assoc, List.append_eq_append_iff] at h
      rcases h with ⟨l', rfl, h⟩ | ⟨l', hc, h⟩
      · exact ih l' h
      · cases l' with
        | nil =>
          rw [List.nil_append] at h
          exact ih [] h.symm
        | cons x l' =>
          rw [List.cons_append, List.cons_eq_cons] at h
          obtain ⟨rfl, rfl⟩ := h
          by_cases hq : c = '\x27'
          · have hmem : ';' ∈ quoteChar c := hc ▸ by simp
            rw [hq] at hmem
            exact absurd hmem (by decide)
          · rw [quoteChar_of_ne hq] at hc
            have hl : l' = [] := by
              have := congrArg List.length hc
              simp at this
              exact List.eq_nil_of_length_eq_zero (by omega)
            subst hl
            exact ⟨cs, [], by simp, Or.inl rfl⟩
  cases l with
  | nil =>
    rw [quoteWord, List.nil_append, List.cons_eq_cons] at h
    exact absurd h.1 (by decide)
  | cons x l =>
    rw [quoteWord, List.cons_append, List.cons_eq_cons] at h
    exact key cs l h.2

theorem inQuotes_of_writeWord {cs l t : List Char} (h : writeWord cs = l ++ ';' :: t) :
    InQuotes t := by
  unfold writeWord at h
  split at h
  · rename_i hbare
    exact absurd (show ';' ∈ cs by rw [h]; simp) (not_mem_of_isBare hbare)
  · exact inQuotes_of_quoteWord h

/-- A semicolon in a joined command line stands between quotes. -/
theorem inQuotes_of_joinWith (ws : List (List Char)) {l t : List Char}
    (h : joinWith [' '] (ws.map writeWord) = l ++ ';' :: t) : InQuotes t := by
  induction ws generalizing l with
  | nil => simp [joinWith] at h
  | cons w ws ih =>
    cases ws with
    | nil => exact inQuotes_of_writeWord h
    | cons v ws =>
      rw [List.map_cons, List.map_cons, joinWith, ← List.map_cons, List.append_assoc,
        List.append_eq_append_iff] at h
      rcases h with ⟨l', rfl, h⟩ | ⟨l', hw, h⟩
      · cases l' with
        | nil =>
          rw [List.nil_append, List.singleton_append, List.cons_eq_cons] at h
          exact absurd h.1 (by decide)
        | cons x l' =>
          rw [List.singleton_append, List.cons_append, List.cons_eq_cons] at h
          exact ih h.2
      · cases l' with
        | nil =>
          rw [List.nil_append, List.singleton_append, List.cons_eq_cons] at h
          exact absurd h.1 (by decide)
        | cons x l' =>
          rw [List.cons_append, List.cons_eq_cons] at h
          obtain ⟨rfl, rfl⟩ := h
          exact (inQuotes_of_writeWord hw).append_blank _

end PaneRunner.Shell
