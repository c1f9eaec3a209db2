import Mathlib.Algebra.Ring.Int.Defs
import Mathlib.Data.List.TakeWhile
import PaneRunner.Proofs.Capture.Lines

/-
  What a capture file is read as, whatever its lines are. `Verdict` says it without the reader: what
  counts is the last line below the first that starts with the marker, first the exit code on it and
  then the lines of output above it. Every list of lines has one verdict and is read as that
  (`readCapture_eq_iff`), and two lists that agree from the second line to the last marker line have
  the same (`LastMarker.readCapture_congr`).
-/
namespace PaneRunner

namespace Text

theorem stripStart?_eq_some_iff {s p rest : String} : stripStart? s p = some rest ↔ s = p ++ rest := by
  constructor
  · intro h
    obtain ⟨cs, hcs, rfl⟩ := Option.map_eq_some_iff.1 h
    rw [← String.toList_inj, String.toList_append, String.toList_ofList]
    exact append_of_dropStart? hcs
  · rintro rfl
    exact stripStart?_append p rest

theorem startsWith_eq_true_iff {s p : String} : startsWith s p = true ↔ ∃ rest, s = p ++ rest := by
  rw [startsWith_iff]
  constructor
  · rintro ⟨cs, hcs⟩
    refine ⟨.ofList cs, ?_⟩
    rw [← String.toList_inj, String.toList_append, String.toList_ofList, hcs]
  · rintro ⟨rest, rfl⟩
    rw [String.toList_append]
    exact List.prefix_append _ _

theorem trim_blank_append (s : String) : trim (" " ++ s) = trim s := by
  have hlist : (" " ++ s).toList = ' ' :: s.toList := by simp
  rw [trim, hlist, trimStart, List.dropWhile_cons_of_pos (by decide), ← trimStart, ← trim]

end Text

namespace Tmux

open Text

variable {marker : String} {ls ls' : List Bytes} {m : Nat} {line : Bytes}

/-! ## Marker lines -/

/-- The line starts with the marker. A carriage return at its end does not belong to it. -/
def Marks (marker : String) (line : Bytes) : Prop := Utf8.encode marker <+: stripReturn line

theorem isMarkerLine_eq_true_iff {l : Bytes} : isMarkerLine marker l = true ↔ Marks marker l :=
  isSome_dropStart?

theorem isMarkerLine_eq_false_iff {l : Bytes} : isMarkerLine marker l = false ↔ ¬ Marks marker l := by
  rw [← isMarkerLine_eq_true_iff, Bool.not_eq_true]

/-- Line `m` is the last that starts with the marker, and it is not the first line. -/
structure LastMarker (marker : String) (ls : List Bytes) (m : Nat) (line : Bytes) : Prop where
  below_echo : 1 ≤ m
  here : ls[m]? = some line
  marks : Marks marker line
  last : ∀ j l, m < j → ls[j]? = some l → ¬ Marks marker l

/-- The lines above the last marker line, the line itself, and those below. -/
theorem LastMarker.exists_split (h : LastMarker marker ls m line) :
    ∃ echo out below, ls = echo :: (out ++ line :: below) ∧ out.length + 1 = m ∧
      ∀ l ∈ below, ¬ Marks marker l := by
  obtain ⟨hbelow, hhere, -, hlast⟩ := h
  obtain ⟨hm, hline⟩ := List.getElem?_eq_some_iff.1 hhere
  obtain ⟨k, rfl⟩ : ∃ k, m = k + 1 := ⟨m - 1, by omega⟩
  cases ls with
  | nil => exact absurd hm (Nat.not_lt_zero _)
  | cons echo body =>
    rw [List.length_cons] at hm
    rw [List.getElem_cons_succ] at hline
    refine ⟨echo, body.take k, body.drop (k + 1), ?_, ?_, ?_⟩
    · rw [← hline, ← List.drop_eq_getElem_cons (by omega), List.take_append_drop]
    · rw [List.length_take]
      omega
    · intro l hl
      obtain ⟨j, hj⟩ := List.getElem?_of_mem hl
      rw [List.getElem?_drop] at hj
      refine hlast (k + 1 + j + 1) l (by omega) ?_
      rw [List.getElem?_cons_succ]
      exact hj

theorem lastMarker_of_split {echo : Bytes} {out below : List Bytes} (hmarks : Marks marker line)
    (hbelow : ∀ l ∈ below, ¬ Marks marker l) :
    LastMarker marker (echo :: (out ++ line :: below)) (out.length + 1) line := by
  refine ⟨Nat.succ_pos _, by simp, hmarks, fun j l hj hl => ?_⟩
  obtain ⟨i, rfl⟩ : ∃ i, j = out.length + (i + 1) + 1 := ⟨j - out.length - 2, by omega⟩
  rw [List.getElem?_cons_succ, List.getElem?_append_right (by omega), Nat.add_sub_cancel_left,
    List.getElem?_cons_succ] at hl
  exact hbelow l (List.mem_of_getElem? hl)

/-- In a list there is a last element of a kind, or there is none of the kind. -/
theorem exists_last {α : Type} (P : α → Prop) (as : List α) :
    (∀ a ∈ as, ¬ P a) ∨
      ∃ out a below, as = out ++ a :: below ∧ P a ∧ ∀ b ∈ below, ¬ P b := by
  induction as with
  | nil => exact Or.inl fun a ha => absurd ha List.not_mem_nil
  | cons a as ih =>
    rcases ih with hnone | ⟨out, b, below, rfl, hb, hbelow⟩
    · by_cases ha : P a
      · exact Or.inr ⟨[], a, as, rfl, ha, hnone⟩
      · exact Or.inl (List.forall_mem_cons.2 ⟨ha, hnone⟩)
    · exact Or.inr ⟨a :: out, b, below, rfl, hb, hbelow⟩

/-- Below the first line no line starts with the marker, or one of them is the last that does. -/
theorem exists_lastMarker (marker : String) (ls : List Bytes) :
    (∀ l ∈ ls.drop 1, ¬ Marks marker l) ∨ ∃ m line, LastMarker marker ls m line := by
  cases ls with
  | nil => exact Or.inl fun l hl => absurd hl List.not_mem_nil
  | cons echo body =>
    refine (exists_last (Marks marker) body).imp_right ?_
    rintro ⟨out, line, below, rfl, hmarks, hbelow⟩
    exact ⟨_, line, lastMarker_of_split hmarks hbelow⟩

theorem holdsMarker_iff_marks : holdsMarker ls marker = true ↔ ∃ l ∈ ls.drop 1, Marks marker l := by
  rw [holdsMarker, List.any_eq_true]
  exact exists_congr fun l => and_congr_right fun _ => isMarkerLine_eq_true_iff

/-- A file holds the marker exactly if it has a last marker line. -/
theorem holdsMarker_iff_exists_lastMarker :
    holdsMarker ls marker = true ↔ ∃ m line, LastMarker marker ls m line := by
  rw [holdsMarker_iff_marks]
  constructor
  · rintro ⟨l, hl, hmarks⟩
    exact (exists_lastMarker marker ls).resolve_left fun hnone => hnone l hl hmarks
  · rintro ⟨m, line, h⟩
    obtain ⟨echo, out, below, rfl, -, -⟩ := h.exists_split
    exact ⟨line, List.mem_append_right out List.mem_cons_self, h.marks⟩

/-! ## The exit code -/

/-- The text of a marker line that tells an exit code: the marker, a blank, and a number in range
with any blanks around it. -/
def CodeLine (marker text : String) (code : Int) : Prop :=
  ∃ rest, text = marker ++ " " ++ rest ∧ Decimal.Signed (trim rest).toList code ∧
    -2 ^ 31 ≤ code ∧ code < 2 ^ 31

theorem signed?_code_iff {cs : List Char} {i : Int} :
    Decimal.signed? (1 <<< 31) cs = some i ↔ Decimal.Signed cs i ∧ -2 ^ 31 ≤ i ∧ i < 2 ^ 31 := by
  have hbound : ((1 <<< 31 : Nat) : Int) = 2 ^ 31 := by decide
  rw [Decimal.signed?_eq_some_iff (by decide), hbound]

theorem exitCode_of_codeLine {text : String} {code : Int} (h : CodeLine marker text code) :
    exitCode text marker = .ok (.ofInt code) := by
  obtain ⟨rest, rfl, hsigned⟩ := h
  have hblank : startsWith (" " ++ rest) " " = true := startsWith_eq_true_iff.2 ⟨rest, rfl⟩
  rw [String.append_assoc]
  simp only [exitCode, stripStart?_append, Option.bind_eq_bind, Option.bind_some, hblank, if_true,
    trim_blank_append, signed?_code_iff.2 hsigned]

theorem exitCode_of_not_codeLine {text : String} (h : ∀ code, ¬ CodeLine marker text code) :
    exitCode text marker = .error (.exitCodeParse text) := by
  unfold exitCode
  dsimp only
  split
  · rename_i code hcode
    obtain ⟨rest, hrest, hread⟩ := Option.bind_eq_some_iff.1 hcode
    obtain ⟨hblank, hsigned⟩ := Option.ite_none_right_eq_some.1 hread
    obtain ⟨digits, rfl⟩ := startsWith_eq_true_iff.1 hblank
    rw [trim_blank_append] at hsigned
    refine absurd ⟨digits, ?_, signed?_code_iff.1 hsigned⟩ (h code)
    rw [stripStart?_eq_some_iff.1 hrest, String.append_assoc]
  · rfl

/-! ## The output -/

/-- What is left of a line behind its first carriage return, or all of it if it has none. -/
inductive Behind : Bytes → Bytes → Prop where
  | all {line : Bytes} (h : 13 ∉ line) : Behind line line
  | rest {front rest : Bytes} (h : 13 ∉ front) : Behind (front ++ 13 :: rest) rest

theorem afterReturn_eq_iff {line rest : Bytes} : afterReturn line = rest ↔ Behind line rest := by
  constructor
  · rintro rfl
    unfold afterReturn
    cases hcut : cutAt? [13] line with
    | none =>
      refine .all fun hmem => ?_
      obtain ⟨front, rest, rfl⟩ := List.append_of_mem hmem
      have hfound := isSome_cutAt? front [13] rest
      rw [List.singleton_append, hcut] at hfound
      cases hfound
    | some parts =>
      obtain ⟨front, rest⟩ := parts
      have hline := append_of_cutAt? hcut
      rw [List.append_assoc, List.singleton_append] at hline
      rw [hline]
      exact .rest (not_mem_of_cutAt? hcut)
  · intro h
    cases h with
    | all h => rw [afterReturn, cutAt?_of_not_mem h]
    | rest h => rw [afterReturn, cutAt?_singleton h]

/-! ## Verdicts -/

/-- What is said of a file of less than two lines. -/
def tooFewLines (count : Nat) : Error :=
  .captureFormat ("expected at least 2 captured lines, got " ++ Decimal.ofNat count)

/-- What is said of a file without a marker line. -/
def noMarker (marker : String) (count : Nat) : Error :=
  .captureFormat
    ("end marker `" ++ marker ++ "` not found in " ++ Decimal.ofNat count ++ " captured lines")

/-- What is said of a file whose marker line follows the first line. -/
def noOutput : Error := .captureFormat "no output lines between echoed input and end marker"

/-- What the lines of a file come to. -/
inductive Verdict (marker : String) (ls : List Bytes) : Except Error Capture → Prop where
  | tooFew (h : ls.length < 2) : Verdict marker ls (.error (tooFewLines ls.length))
  | unmarked (h : 2 ≤ ls.length) (hnone : ∀ l ∈ ls.drop 1, ¬ Marks marker l) :
      Verdict marker ls (.error (noMarker marker ls.length))
  | codeless {m : Nat} {line : Bytes} (h : LastMarker marker ls m line)
      (hcode : ∀ code, ¬ CodeLine marker (Utf8.decode (stripReturn line)) code) :
      Verdict marker ls (.error (.exitCodeParse (Utf8.decode (stripReturn line))))
  | silent {line : Bytes} {code : Int} (h : LastMarker marker ls 1 line)
      (hcode : CodeLine marker (Utf8.decode (stripReturn line)) code) :
      Verdict marker ls (.error noOutput)
  | complete {m : Nat} {line first rest : Bytes} {more : List Bytes} {code : Int}
      (h : LastMarker marker ls m line)
      (hcode : CodeLine marker (Utf8.decode (stripReturn line)) code)
      (hout : (ls.take m).drop 1 = first :: more) (hfirst : Behind (stripReturn first) rest) :
      Verdict marker ls
        (.ok { stdout := joinWith [10] (rest :: more.map stripReturn), code := .ofInt code })

theorem readCapture_of_unmarked (h : 2 ≤ ls.length) (hnone : ∀ l ∈ ls.drop 1, ¬ Marks marker l) :
    readCapture ls marker = .error (noMarker marker ls.length) := by
  match ls, h, hnone with
  | echo :: l :: body, _, hnone =>
    have hempty : ((l :: body).reverse.dropWhile fun l => !isMarkerLine marker l) = [] := by
      refine List.dropWhile_eq_nil_iff.2 fun l' hl' => ?_
      rw [isMarkerLine_eq_false_iff.2 (hnone l' (List.mem_reverse.1 hl'))]
      rfl
    simp only [readCapture, hempty]
    rfl

/-- A file is read through its last marker line. -/
theorem LastMarker.readCapture_eq (h : LastMarker marker ls m line) :
    readCapture ls marker =
      (exitCode (Utf8.decode (stripReturn line)) marker).bind fun code =>
        match ((ls.take m).drop 1).map stripReturn with
        | [] => .error noOutput
        | first :: more => .ok { stdout := joinWith [10] (afterReturn first :: more), code } := by
  obtain ⟨echo, out, below, rfl, rfl, hbelow⟩ := h.exists_split
  rw [List.take_succ_cons, List.drop_succ_cons, List.drop_zero, List.take_left]
  exact readCapture_layout (isMarkerLine_eq_true_iff.2 h.marks) fun l hl =>
    isMarkerLine_eq_false_iff.2 (hbelow l hl)

/-- A file is read as its verdict. -/
theorem Verdict.readCapture_eq {result : Except Error Capture} (h : Verdict marker ls result) :
    readCapture ls marker = result := by
  cases h with
  | tooFew h =>
    match ls, h with
    | [], _ => rfl
    | [_], _ => rfl
  | unmarked h hnone => exact readCapture_of_unmarked h hnone
  | codeless h hcode =>
    rw [h.readCapture_eq, exitCode_of_not_codeLine hcode]
    rfl
  | silent h hcode =>
    have hout : (ls.take 1).drop 1 = [] := by simp
    rw [h.readCapture_eq, exitCode_of_codeLine hcode, hout]
    rfl
  | complete h hcode hout hfirst =>
    rw [h.readCapture_eq, exitCode_of_codeLine hcode, hout, ← afterReturn_eq_iff.2 hfirst]
    rfl

/-- Every file has a verdict. -/
theorem exists_verdict (marker : String) (ls : List Bytes) : ∃ result, Verdict marker ls result := by
  rcases exists_lastMarker marker ls with hnone | ⟨m, line, h⟩
  · by_cases hlength : ls.length < 2
    · exact ⟨_, .tooFew hlength⟩
    · exact ⟨_, .unmarked (Nat.le_of_not_lt hlength) hnone⟩
  · by_cases hcode : ∃ code, CodeLine marker (Utf8.decode (stripReturn line)) code
    · obtain ⟨code, hcode⟩ := hcode
      rcases Nat.eq_or_lt_of_le h.below_echo with rfl | hm
      · exact ⟨_, .silent h hcode⟩
      · have hlength := (List.getElem?_eq_some_iff.1 h.here).1
        have hsome : (ls.take m).drop 1 ≠ [] := by
          rw [← List.length_pos_iff, List.length_drop, List.length_take]
          omega
        obtain ⟨first, more, hout⟩ := List.exists_cons_of_ne_nil hsome
        exact ⟨_, .complete h hcode hout (afterReturn_eq_iff.1 rfl)⟩
    · exact ⟨_, .codeless h (not_exists.1 hcode)⟩

theorem readCapture_eq_iff {result : Except Error Capture} :
    readCapture ls marker = result ↔ Verdict marker ls result := by
  constructor
  · rintro rfl
    obtain ⟨result, h⟩ := exists_verdict marker ls
    exact h.readCapture_eq ▸ h
  · exact Verdict.readCapture_eq

/-! ## What does not count -/

/-- From the second line to the last marker line two files agree, and no other line below starts with
the marker. -/
structure Agree (marker : String) (m : Nat) (ls ls' : List Bytes) : Prop where
  lines : ∀ j, 1 ≤ j → j ≤ m → ls'[j]? = ls[j]?
  unmarked : ∀ j l, m < j → ls'[j]? = some l → ¬ Marks marker l

theorem LastMarker.congr (h : LastMarker marker ls m line) (hagree : Agree marker m ls ls') :
    LastMarker marker ls' m line :=
  ⟨h.below_echo, (hagree.lines m h.below_echo (Nat.le_refl m)).trans h.here, h.marks,
    hagree.unmarked⟩

/-- Neither the first line nor what stands below the last marker line counts. -/
theorem LastMarker.readCapture_congr (h : LastMarker marker ls m line)
    (hagree : Agree marker m ls ls') : readCapture ls' marker = readCapture ls marker := by
  have hout : (ls'.take m).drop 1 = (ls.take m).drop 1 := by
    refine List.ext_getElem? fun i => ?_
    rw [List.getElem?_drop, List.getElem?_drop, List.getElem?_take, List.getElem?_take]
    split
    · exact hagree.lines _ (by omega) (by omega)
    · rfl
  rw [(h.congr hagree).readCapture_eq, h.readCapture_eq, hout]

/-- A file is refused for its lines or for want of a marker line. -/
def Unmarked (marker : String) (ls : List Bytes) (result : Except Error Capture) : Prop :=
  result = .error (tooFewLines ls.length) ∨ result = .error (noMarker marker ls.length)

theorem noOutput_ne (marker : String) (n : Nat) : noOutput ≠ tooFewLines n ∧
    noOutput ≠ noMarker marker n := by
  constructor
  · intro h
    have hlist := congrArg (fun s : String => s.toList.head?) (Error.captureFormat.inj h)
    simp [String.toList_append] at hlist
  · intro h
    have hlist := congrArg (fun s : String => s.toList.head?) (Error.captureFormat.inj h)
    simp [String.toList_append] at hlist

/-- Lines are refused as too few or for want of a marker exactly if the wait for the marker goes on. -/
theorem unmarked_iff : Unmarked marker ls (readCapture ls marker) ↔ holdsMarker ls marker = false := by
  constructor
  · intro h
    rw [← Bool.not_eq_true, holdsMarker_iff_exists_lastMarker]
    rintro ⟨m, line, hlast⟩
    obtain ⟨result, hverdict⟩ := exists_verdict marker ls
    rw [hverdict.readCapture_eq] at h
    cases hverdict with
    | tooFew hlength =>
      have := (List.getElem?_eq_some_iff.1 hlast.here).1
      have := hlast.below_echo
      omega
    | unmarked _ hnone =>
      obtain ⟨echo, out, below, rfl, -, -⟩ := hlast.exists_split
      exact hnone line (List.mem_append_right out List.mem_cons_self) hlast.marks
    | codeless => rcases h with h | h <;> cases h
    | silent =>
      rcases h with h | h
      · exact (noOutput_ne marker _).1 (Except.error.inj h)
      · exact (noOutput_ne marker _).2 (Except.error.inj h)
    | complete => rcases h with h | h <;> cases h
  · intro h
    have hnone : ∀ l ∈ ls.drop 1, ¬ Marks marker l := by
      intro l hl hmarks
      rw [holdsMarker_iff_marks.2 ⟨l, hl, hmarks⟩] at h
      cases h
    by_cases hlength : ls.length < 2
    · exact Or.inl (Verdict.tooFew hlength).readCapture_eq
    · exact Or.inr (readCapture_of_unmarked (Nat.le_of_not_lt hlength) hnone)

/-- The wait for the marker and the reader of the file agree on which files have a marker line, the
reader accepts a file exactly if it has the layout of a finished command and says else what is wrong
with it, and neither the first line nor what stands below the last marker line counts. -/
theorem readCapture_verdict (marker : String) (ls : List Bytes) :
    (Unmarked marker ls (readCapture ls marker) ↔ holdsMarker ls marker = false) ∧
      (holdsMarker ls marker = true ↔ ∃ m line, LastMarker marker ls m line) ∧
      (∀ result, readCapture ls marker = result ↔ Verdict marker ls result) ∧
      ∀ m line, LastMarker marker ls m line → ∀ ls', Agree marker m ls ls' →
        readCapture ls' marker = readCapture ls marker :=
  ⟨unmarked_iff, holdsMarker_iff_exists_lastMarker, fun _ => readCapture_eq_iff,
    fun _ _ h _ hagree => h.readCapture_congr hagree⟩

/-- A first line that looks like a marker line and a prompt below the marker line do not count. -/
theorem readCapture_verdict_lookalike :
    let out := [Utf8.encode "\x1b[?2004l\ra\r", Utf8.encode "\r"]
    let line := Utf8.encode "M 7\r"
    readCapture (Utf8.encode "M 1" :: (out ++ line :: [Utf8.encode "$ "])) "M" =
        readCapture (Utf8.encode "$ x\r" :: (out ++ line :: [])) "M" ∧
      readCapture (Utf8.encode "$ x\r" :: (out ++ line :: [])) "M" =
        .ok ⟨Utf8.encode "a\n", 7⟩ := by
  intro out line
  have hmarks : Marks "M" line := isMarkerLine_eq_true_iff.1 (by decide)
  have hprompt : ∀ l ∈ [Utf8.encode "$ "], ¬ Marks "M" l := by
    intro l hl
    rw [List.mem_singleton.1 hl]
    exact isMarkerLine_eq_false_iff.1 (by decide)
  have hlast : LastMarker "M" (Utf8.encode "$ x\r" :: (out ++ line :: [])) 3 line :=
    lastMarker_of_split hmarks fun l hl => absurd hl List.not_mem_nil
  have hlast' : LastMarker "M" (Utf8.encode "M 1" :: (out ++ line :: [Utf8.encode "$ "])) 3 line :=
    lastMarker_of_split hmarks hprompt
  refine ⟨(readCapture_verdict "M" _).2.2.2 3 line hlast _ ⟨fun j hj hj' => ?_, hlast'.last⟩,
    by decide +kernel⟩
  obtain rfl | rfl | rfl : j = 1 ∨ j = 2 ∨ j = 3 := by omega
  all_goals rfl

end Tmux

end PaneRunner
