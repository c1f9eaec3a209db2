import PaneRunner.Proofs.Shell.Quoting
import PaneRunner.Proofs.Text.Pieces

/-
  A joined command line, read by two readers. `words_join`: the words are read back. `Quoting` is
  how a POSIX shell takes the characters of a line, and `readings` the characters with it. Between
  two words stands one active blank (`readings_joinWith`); within a word a character outside single
  quotes is safe, opens quotes, or belongs to an escaped quote (`inWord_writeWord`). So nothing in a
  joined line has a meaning to the shell but to make up the words (`inert_join`).
-/
namespace PaneRunner.Shell

open Text

/-! ## Safe characters -/

theorem toNat_of_isSafeChar {c : Char} (h : isSafeChar c = true) :
    c.toNat = 37 ∨ (43 ≤ c.toNat ∧ c.toNat ≤ 58) ∨ (64 ≤ c.toNat ∧ c.toNat ≤ 90) ∨ c.toNat = 95 ∨
      (97 ≤ c.toNat ∧ c.toNat ≤ 122) := by
  simp only [isSafeChar, Bool.or_eq_true, beq_iff_eq] at h
  rcases h with ((((((((h | rfl) | rfl) | rfl) | rfl) | rfl) | rfl) | rfl) | rfl) | rfl
  · unfold Char.isAlphanum Char.isAlpha Char.isUpper Char.isLower Char.isDigit at h
    simp only [Bool.or_eq_true, Bool.and_eq_true, decide_eq_true_eq, UInt32.le_iff_toNat_le,
      ge_iff_le] at h
    change ((65 ≤ c.toNat ∧ c.toNat ≤ 90) ∨ (97 ≤ c.toNat ∧ c.toNat ≤ 122)) ∨
      (48 ≤ c.toNat ∧ c.toNat ≤ 57) at h
    omega
  all_goals decide

theorem not_isBlankChar_of_isSafeChar {c : Char} (h : isSafeChar c = true) :
    isBlankChar c = false := by
  have hrange := toNat_of_isSafeChar h
  simp only [isBlankChar, Bool.or_eq_false_iff, Bool.and_eq_false_iff, decide_eq_false_iff_not,
    beq_eq_false_iff_ne]
  omega

theorem ne_of_isSafeChar {c d : Char} (h : isSafeChar c = true) (hd : isSafeChar d = false) :
    c ≠ d := by
  rintro rfl
  rw [h] at hd
  cases hd

theorem isBare_iff {cs : List Char} :
    isBare cs = true ↔ cs ≠ [] ∧ ∀ c ∈ cs, isSafeChar c = true := by
  simp [isBare]

/-! ## Words -/

/-- Safe characters are taken as they are. -/
theorem scanWords_safe {cs : List Char} (h : ∀ c ∈ cs, isSafeChar c = true) (w rest : List Char) :
    scanWords .plain (some w) (cs ++ rest) = scanWords .plain (some (w ++ cs)) rest := by
  induction cs generalizing w with
  | nil => rw [List.nil_append, List.append_nil]
  | cons c cs ih =>
    have hc := h c List.mem_cons_self
    rw [List.cons_append, scanWords, if_neg (ne_of_isSafeChar hc (by decide)),
      if_neg (ne_of_isSafeChar hc (by decide)), if_neg (ne_of_isSafeChar hc (by decide)),
      not_isBlankChar_of_isSafeChar hc, if_neg Bool.false_ne_true, extend, Option.getD_some,
      ih fun d hd => h d (List.mem_cons_of_mem _ hd), List.append_assoc, List.singleton_append]

/-- The first character begins the word. -/
theorem scanWords_bare {cs : List Char} (h : isBare cs = true) (rest : List Char) :
    scanWords .plain none (cs ++ rest) = scanWords .plain (some cs) rest := by
  obtain ⟨hne, hsafe⟩ := isBare_iff.1 h
  obtain ⟨c, cs, rfl⟩ := List.exists_cons_of_ne_nil hne
  have hc := hsafe c List.mem_cons_self
  rw [List.cons_append, scanWords, if_neg (ne_of_isSafeChar hc (by decide)),
    if_neg (ne_of_isSafeChar hc (by decide)), if_neg (ne_of_isSafeChar hc (by decide)),
    not_isBlankChar_of_isSafeChar hc, if_neg Bool.false_ne_true, extend, Option.getD_none,
    scanWords_safe fun d hd => hsafe d (List.mem_cons_of_mem _ hd)]
  rfl

theorem scanWords_writeWord (cs rest : List Char) :
    scanWords .plain none (writeWord cs ++ rest) = scanWords .plain (some cs) rest := by
  unfold writeWord
  split
  · rename_i hbare
    exact scanWords_bare hbare rest
  · rw [scanWords_quoteWord, Option.getD_none, List.nil_append]

/-- The words of a joined command line are those that were joined. -/
theorem wordsOf_joinWith (ws : List (List Char)) :
    wordsOf (joinWith [' '] (ws.map writeWord)) = ws := by
  induction ws with
  | nil => rfl
  | cons w ws ih =>
    cases ws with
    | nil =>
      have h := scanWords_writeWord w []
      rw [List.append_nil] at h
      rw [List.map_singleton, joinWith, wordsOf, h]
      rfl
    | cons v ws =>
      rw [List.map_cons, List.map_cons, joinWith, wordsOf, List.append_assoc, scanWords_writeWord,
        List.singleton_append, scanWords, if_neg (by decide), if_neg (by decide),
        if_neg (by decide), if_pos (by decide), ← List.map_cons]
      exact congrArg (w :: ·) ih

theorem words_join (argv : List String) : words (join argv) = argv := by
  rw [words, toList_join, wordsOf_joinWith, List.map_map]
  exact List.map_id'' (fun s => String.ofList_toList) argv

/-! ## Readings of a POSIX shell -/

/-- How a POSIX shell takes the next character. -/
inductive Quoting where
  /-- outside of quotes -/
  | bare
  /-- between single quotes, where only the quote that closes them has a meaning -/
  | single
  /-- between double quotes -/
  | double
  /-- behind a backslash outside of quotes -/
  | escape
  /-- behind a backslash between double quotes -/
  | doubleEscape
  deriving DecidableEq, Repr

namespace Quoting

/-- How the character after `c` is taken. -/
def next : Quoting → Char → Quoting
  | .bare, c =>
    if c = '\x27' then .single else if c = '\x22' then .double else if c = '\x5c' then .escape
    else .bare
  | .single, c => if c = '\x27' then .bare else .single
  | .double, c => if c = '\x22' then .bare else if c = '\x5c' then .doubleEscape else .double
  | .escape, _ => .bare
  | .doubleEscape, _ => .double

/-- How the character after a text is taken. -/
def after (q : Quoting) (cs : List Char) : Quoting := cs.foldl next q

end Quoting

/-- The characters of a text with how each of them is taken. -/
def readings : Quoting → List Char → List (Quoting × Char)
  | _, [] => []
  | q, c :: cs => (q, c) :: readings (q.next c) cs

theorem readings_append (q : Quoting) (xs ys : List Char) :
    readings q (xs ++ ys) = readings q xs ++ readings (q.after xs) ys := by
  induction xs generalizing q with
  | nil => rfl
  | cons x xs ih =>
    rw [List.cons_append, readings, ih, readings, List.cons_append]
    rfl

theorem after_append (q : Quoting) (xs ys : List Char) :
    q.after (xs ++ ys) = (q.after xs).after ys := List.foldl_append

/-- A character that makes up a word and does nothing else: a safe one, the quote that opens quotes,
what stands between them with the quote that closes them, or an escaped quote with its backslash. -/
inductive InWord : Quoting → Char → Prop where
  | safe {c : Char} (h : isSafeChar c = true) : InWord .bare c
  | opening : InWord .bare '\x27'
  | quoted (c : Char) : InWord .single c
  | backslash : InWord .bare '\x5c'
  | escaped : InWord .escape '\x27'

theorem InWord.ne_separator {r : Quoting × Char} (h : InWord r.1 r.2) : r ≠ (.bare, ' ') := by
  rintro rfl
  cases h with
  | safe h => exact absurd h (by decide)

/-! ## Words of a joined line -/

theorem next_of_isSafeChar {c : Char} (h : isSafeChar c = true) :
    Quoting.next .bare c = .bare := by
  rw [Quoting.next, if_neg (ne_of_isSafeChar h (by decide)),
    if_neg (ne_of_isSafeChar h (by decide)), if_neg (ne_of_isSafeChar h (by decide))]

theorem inWord_safe {cs : List Char} (h : ∀ c ∈ cs, isSafeChar c = true) :
    Quoting.after .bare cs = .bare ∧ ∀ r ∈ readings .bare cs, InWord r.1 r.2 := by
  induction cs with
  | nil => exact ⟨rfl, fun r hr => by cases hr⟩
  | cons c cs ih =>
    have hc := h c List.mem_cons_self
    obtain ⟨hafter, hword⟩ := ih fun d hd => h d (List.mem_cons_of_mem _ hd)
    constructor
    · rw [Quoting.after, List.foldl_cons, next_of_isSafeChar hc]
      exact hafter
    · intro r hr
      rw [readings, next_of_isSafeChar hc] at hr
      rcases List.mem_cons.1 hr with rfl | hr
      · exact .safe hc
      · exact hword r hr

/-- An escaped quote closes the quotes and opens them again. -/
theorem inWord_quoteChar (c : Char) :
    Quoting.after .single (quoteChar c) = .single ∧
      ∀ r ∈ readings .single (quoteChar c), InWord r.1 r.2 := by
  by_cases hc : c = '\x27'
  · rw [hc, quoteChar_quote]
    refine ⟨by decide, fun r hr => ?_⟩
    have hreadings : readings .single ['\x27', '\x5c', '\x27', '\x27'] =
        [(.single, '\x27'), (.bare, '\x5c'), (.escape, '\x27'), (.bare, '\x27')] := by decide
    rw [hreadings] at hr
    simp only [List.mem_cons, List.not_mem_nil, or_false] at hr
    rcases hr with rfl | rfl | rfl | rfl
    · exact .quoted _
    · exact .backslash
    · exact .escaped
    · exact .opening
  · rw [quoteChar_of_ne hc]
    refine ⟨if_neg hc, fun r hr => ?_⟩
    rw [readings, readings, List.mem_singleton] at hr
    rw [hr]
    exact .quoted c

theorem inWord_flatMap_quoteChar (cs : List Char) :
    Quoting.after .single (cs.flatMap quoteChar) = .single ∧
      ∀ r ∈ readings .single (cs.flatMap quoteChar), InWord r.1 r.2 := by
  induction cs with
  | nil => exact ⟨rfl, fun r hr => by cases hr⟩
  | cons c cs ih =>
    obtain ⟨hafter, hword⟩ := inWord_quoteChar c
    rw [List.flatMap_cons, after_append, readings_append, hafter]
    refine ⟨ih.1, fun r hr => ?_⟩
    rcases List.mem_append.1 hr with hr | hr
    · exact hword r hr
    · exact ih.2 r hr

theorem inWord_quoteWord (cs : List Char) :
    Quoting.after .bare (quoteWord cs) = .bare ∧
      ∀ r ∈ readings .bare (quoteWord cs), InWord r.1 r.2 := by
  obtain ⟨hafter, hword⟩ := inWord_flatMap_quoteChar cs
  have hopen : Quoting.next .bare '\x27' = .single := rfl
  constructor
  · rw [quoteWord, Quoting.after, List.foldl_cons, hopen]
    change Quoting.after .single (cs.flatMap quoteChar ++ ['\x27']) = .bare
    rw [after_append, hafter]
    rfl
  · intro r hr
    rw [quoteWord, readings, hopen, readings_append, hafter] at hr
    rcases List.mem_cons.1 hr with rfl | hr
    · exact .opening
    rcases List.mem_append.1 hr with hr | hr
    · exact hword r hr
    · rw [readings, readings, List.mem_singleton] at hr
      rw [hr]
      exact .quoted _

/-- A written word leaves no quotes open, and every character of it only makes up the word. -/
theorem inWord_writeWord (cs : List Char) :
    Quoting.after .bare (writeWord cs) = .bare ∧
      ∀ r ∈ readings .bare (writeWord cs), InWord r.1 r.2 := by
  unfold writeWord
  split
  · rename_i hbare
    exact inWord_safe (isBare_iff.1 hbare).2
  · exact inWord_quoteWord cs

theorem readings_writeWord_ne_nil (cs : List Char) : readings .bare (writeWord cs) ≠ [] := by
  have hne : writeWord cs ≠ [] := by
    unfold writeWord
    split
    · rename_i hbare
      exact (isBare_iff.1 hbare).1
    · exact List.cons_ne_nil _ _
  obtain ⟨c, rest, hcons⟩ := List.exists_cons_of_ne_nil hne
  rw [hcons, readings]
  exact List.cons_ne_nil _ _

/-- A joined line is taken as its words are, with one active blank between any two of them. -/
theorem readings_joinWith (ws : List (List Char)) :
    Quoting.after .bare (joinWith [' '] (ws.map writeWord)) = .bare ∧
      readings .bare (joinWith [' '] (ws.map writeWord)) =
        joinWith [(.bare, ' ')] (ws.map fun w => readings .bare (writeWord w)) := by
  induction ws with
  | nil => exact ⟨rfl, rfl⟩
  | cons w ws ih =>
    cases ws with
    | nil => exact ⟨(inWord_writeWord w).1, rfl⟩
    | cons v ws =>
      have hblank : Quoting.after .bare (writeWord w ++ [' ']) = .bare := by
        rw [after_append, (inWord_writeWord w).1]
        rfl
      rw [List.map_cons, List.map_cons, joinWith, ← List.map_cons]
      constructor
      · rw [after_append, hblank]
        exact ih.1
      · rw [readings_append, hblank, ih.2, readings_append, (inWord_writeWord w).1]
        rfl

/-- Characters that make a shell do something. -/
def metacharacters : List Char :=
  ['$', '`', ';', '&', '|', '<', '>', '(', ')', '*', '?', '[', ']', '#', '~', '=', '!', '^', '\x7b',
    '\x7d', '"', '\t', '\n', '\r']

theorem InWord.single_of_metacharacter {q : Quoting} {c : Char} (h : InWord q c)
    (hc : c ∈ metacharacters) : q = .single := by
  have hplain : (metacharacters.all fun d => !isSafeChar d && d != '\x27' && d != '\x5c') = true := by
    decide
  have hnot := List.all_eq_true.1 hplain c hc
  simp only [Bool.and_eq_true, Bool.not_eq_true', bne_iff_ne] at hnot
  obtain ⟨⟨hnotSafe, hquote⟩, hbackslash⟩ := hnot
  cases h with
  | safe h =>
    rw [h] at hnotSafe
    cases hnotSafe
  | opening => exact absurd rfl hquote
  | quoted => rfl
  | backslash => exact absurd rfl hbackslash
  | escaped => exact absurd rfl hquote

/-- A line that a shell takes as these words and as nothing else. -/
structure Inert (line : String) (argv : List String) : Prop where
  /-- no quotes are open at the end -/
  closed : Quoting.after .bare line.toList = .bare
  /-- between any two words there is one active blank -/
  separated : readings .bare line.toList =
    joinWith [(.bare, ' ')] (argv.map fun a => readings .bare (writeWord a.toList))
  /-- every word is something, and has no active blank in it -/
  no_separator : ∀ a ∈ argv, readings .bare (writeWord a.toList) ≠ [] ∧
    (.bare, ' ') ∉ readings .bare (writeWord a.toList)
  /-- every other character makes up a word -/
  in_word : ∀ r ∈ readings .bare line.toList, r = (.bare, ' ') ∨ InWord r.1 r.2
  /-- no metacharacter stands outside of single quotes -/
  no_metacharacter : ∀ r ∈ readings .bare line.toList, r.2 ∈ metacharacters → r.1 = .single

theorem inert_join (argv : List String) : Inert (join argv) argv := by
  obtain ⟨hclosed, hreadings⟩ := readings_joinWith (argv.map String.toList)
  rw [← toList_join] at hclosed hreadings
  rw [List.map_map] at hreadings
  have hword : ∀ r ∈ readings .bare (join argv).toList, r = (.bare, ' ') ∨ InWord r.1 r.2 := by
    intro r hr
    rw [hreadings] at hr
    rcases mem_joinWith hr with hr | ⟨p, hp, hr⟩
    · exact Or.inl (List.mem_singleton.1 hr)
    · obtain ⟨a, -, rfl⟩ := List.mem_map.1 hp
      exact Or.inr ((inWord_writeWord a.toList).2 r hr)
  refine ⟨hclosed, hreadings, fun a _ => ⟨readings_writeWord_ne_nil _, fun hr => ?_⟩, hword,
    fun r hr hmeta => ?_⟩
  · exact ((inWord_writeWord a.toList).2 _ hr).ne_separator rfl
  · rcases hword r hr with rfl | h
    · exact absurd hmeta (by decide)
    · exact h.single_of_metacharacter hmeta

/-- Joined words are read back, so is a quoted word, and a shell takes nothing in the joined line for
anything but these words. -/
theorem words_join_and_inert (argv : List String) (s : String) :
    words (join argv) = argv ∧ words (quote s) = [s] ∧ Inert (join argv) argv :=
  ⟨words_join argv, words_quote s, inert_join argv⟩

end PaneRunner.Shell
