import PaneRunner.Proofs.Run.TypedLine
import PaneRunner.Proofs.Shell.Joining

/-
  Where the marker command stands in the typed line. It begins with a semicolon, and in what is
  written for an argument or for the marker a semicolon stands only between quotes, from where the
  marker command does not go on (`not_isPrefix_afterSemicolon`). So it stands once in the
  line, whatever the arguments are (`commandLine_eq_append_iff`), and the line tells which command
  and which marker it was made of (`commandLine_splits_once`).
-/
namespace PaneRunner.Tmux

open Text

/-- What follows the semicolon of the marker command. -/
def afterSemicolon : List Char := " printf '\\n%s %s\\n' ".toList

theorem toList_markerCommand : markerCommand.toList = ';' :: afterSemicolon := by decide

theorem semicolon_not_mem_afterSemicolon : ';' ∉ afterSemicolon := by decide

/-- From between quotes the marker command does not go on: its first quote has a backslash and a
letter behind it. -/
theorem not_isPrefix_afterSemicolon {t : List Char} (h : Shell.InQuotes t)
    (rest : List Char) : ¬ afterSemicolon <+: t ++ ';' :: rest := by
  have hstart : " printf ".toList ++ ['\x27', '\x5c', 'n'] <+: afterSemicolon := by decide
  intro hp
  exact h.not_isPrefix (by decide) (by decide) rest (hstart.trans hp)

/-! ## Semicolons in the typed line -/

/-- A semicolon in the command stands between quotes. -/
theorem inQuotes_of_join {argv : List String} {l t : List Char}
    (h : (Shell.join argv).toList = l ++ ';' :: t) : Shell.InQuotes t := by
  rw [Shell.toList_join] at h
  exact Shell.inQuotes_of_joinWith _ h

/-- A semicolon behind the marker command belongs to the marker, and stands between quotes. -/
theorem inQuotes_of_marked {marker : String} {l t : List Char}
    (h : (marked marker).toList = l ++ ';' :: t) : Shell.InQuotes t := by
  have hlist : (marked marker).toList =
      Shell.quoteWord marker.toList ++ ' ' :: "\"$?\"".toList := by
    simp [marked, Shell.quote]
  rw [hlist, List.append_eq_append_iff] at h
  rcases h with ⟨l', -, h⟩ | ⟨l', hword, h⟩
  · have hmem : ';' ∈ ' ' :: "\"$?\"".toList := h ▸ List.mem_append_right l' List.mem_cons_self
    exact absurd hmem (by decide)
  · cases l' with
    | nil =>
      obtain ⟨hblank, -⟩ := List.cons_eq_cons.1 h
      exact absurd hblank (by decide)
    | cons c l' =>
      rw [List.cons_append] at h
      obtain ⟨rfl, rfl⟩ := List.cons_eq_cons.1 h
      exact (Shell.inQuotes_of_quoteWord hword).append_blank _

/-! ## The marker command -/

/-- Behind its beginning the marker command does not begin again. -/
theorem eq_nil_of_marker_append {marker : String} {l r : List Char}
    (h : markerCommand.toList ++ (marked marker).toList = l ++ (markerCommand.toList ++ r)) :
    l = [] := by
  cases l with
  | nil => rfl
  | cons c l =>
    rw [toList_markerCommand] at h
    obtain ⟨-, h⟩ := List.cons_eq_cons.1 h
    change afterSemicolon ++ (marked marker).toList = l ++ ';' :: (afterSemicolon ++ r) at h
    rcases List.append_eq_append_iff.1 h with ⟨l', -, hmarked⟩ | ⟨l', hafter, hmarked⟩
    · -- the second one would begin in the marker
      have hquotes := inQuotes_of_marked hmarked
      refine absurd ?_ (not_isPrefix_afterSemicolon hquotes [])
      rw [List.append_assoc]
      exact List.prefix_append _ _
    · cases l' with
      | nil =>
        rw [List.nil_append] at hmarked
        have hquote : (marked marker).toList.head? = some '\x27' := by
          simp [marked, Shell.quote, Shell.quoteWord]
        rw [← hmarked] at hquote
        exact absurd (Option.some.inj hquote) (by decide)
      | cons d l' =>
        obtain ⟨rfl, -⟩ := List.cons_eq_cons.1 hmarked
        have hmem : ';' ∈ afterSemicolon := hafter ▸ List.mem_append_right l List.mem_cons_self
        exact absurd hmem semicolon_not_mem_afterSemicolon

/-- In the command the marker command does not begin. -/
theorem eq_nil_of_join {argv : List String} {l c r rest : List Char}
    (hjoin : (Shell.join argv).toList = l ++ c)
    (h : markerCommand.toList ++ r = c ++ (markerCommand.toList ++ rest)) : c = [] := by
  cases c with
  | nil => rfl
  | cons d c =>
    rw [toList_markerCommand] at h
    obtain ⟨rfl, hafter⟩ := List.cons_eq_cons.1 h
    refine absurd ?_
      (not_isPrefix_afterSemicolon (inQuotes_of_join hjoin) (afterSemicolon ++ rest))
    exact ⟨r, hafter⟩

/-- The marker command stands once in the typed line: between the command and the marker. -/
theorem commandLine_eq_append_iff (argv : List String) (marker l r : String) :
    commandLine argv marker = l ++ markerCommand ++ r ↔
      l = Shell.join argv ∧ r = marked marker := by
  rw [commandLine_eq, String.append_assoc]
  constructor
  · intro h
    have hlist := congrArg String.toList h
    simp only [String.toList_append] at hlist
    simp only [← String.toList_inj]
    rcases List.append_eq_append_iff.1 hlist with ⟨a, hl, ha⟩ | ⟨a, hjoin, ha⟩
    · obtain rfl := eq_nil_of_marker_append ha
      rw [List.append_nil] at hl
      exact ⟨hl, (List.append_cancel_left ha).symm⟩
    · obtain rfl := eq_nil_of_join hjoin ha
      rw [List.append_nil] at hjoin
      exact ⟨hjoin.symm, List.append_cancel_left ha⟩
  · rintro ⟨rfl, rfl⟩
    rfl

/-- Two typed lines are the same only if they were made of the same command and the same marker. -/
theorem commandLine_inj {argv argv' : List String} {marker marker' : String} :
    commandLine argv marker = commandLine argv' marker' ↔ argv = argv' ∧ marker = marker' := by
  constructor
  · intro h
    rw [commandLine_eq argv' marker', ← String.append_assoc, commandLine_eq_append_iff] at h
    obtain ⟨hjoin, hmarked⟩ := h
    have hargv := congrArg Shell.words hjoin
    have hmarker := congrArg Shell.words hmarked
    rw [Shell.words_join, Shell.words_join] at hargv
    rw [words_marked, words_marked] at hmarker
    exact ⟨hargv.symm, (List.head_eq_of_cons_eq hmarker).symm⟩
  · rintro ⟨rfl, rfl⟩
    rfl

/-- Cut at the first marker command, the typed line falls apart into the joined command and the
quoted marker with the exit code, and both are read back. The marker command stands nowhere else in
the line, and no other command and marker have the same line. -/
theorem commandLine_splits_once (argv : List String) (marker : String) :
    splitOnce? (commandLine argv marker) markerCommand =
        some (Shell.join argv, Shell.quote marker ++ " \"$?\"") ∧
      Shell.words (Shell.join argv) = argv ∧
      Shell.words (Shell.quote marker ++ " \"$?\"") = [marker, "$?"] ∧
      (∀ l r, commandLine argv marker = l ++ markerCommand ++ r ↔
        l = Shell.join argv ∧ r = Shell.quote marker ++ " \"$?\"") ∧
      ∀ argv' marker', commandLine argv' marker' = commandLine argv marker ↔
        argv' = argv ∧ marker' = marker :=
  ⟨splitOnce?_commandLine argv marker, Shell.words_join argv, words_marked marker,
    commandLine_eq_append_iff argv marker, fun _ _ => commandLine_inj⟩

end PaneRunner.Tmux
