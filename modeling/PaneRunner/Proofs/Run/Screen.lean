import PaneRunner.Proofs.Capture.Lines

/-
  What a window shows of its pane. The last line counts as it stands when it is neither blank nor
  ended by a carriage return (`fromBottom_shown`), and a marker shows exactly when it starts this
  line or the one above (`showsMarker_iff`). No proper marker but the dollar sign starts a prompt
  line (`not_isPrefix_prompt`).
-/
namespace PaneRunner.Tmux

open Text

/-- A pane whose last line shows as it stands. -/
structure ShowsLast (pane : List String) (last : String) : Prop where
  getLast? : pane.getLast? = some last
  no_newline : ∀ l ∈ pane, '\n' ∉ l.toList
  no_return : last.toList.getLast? ≠ some '\r'
  not_blank : isBlank last = false

variable {pane : List String} {last marker : String}

theorem ShowsLast.dropLast_append (h : ShowsLast pane last) : pane.dropLast ++ [last] = pane :=
  List.dropLast_append_getLast? last h.getLast?

/-- The lines shown, the last first. -/
theorem ShowsLast.reverse_shownLines (h : ShowsLast pane last) :
    (shownLines (unlines pane)).reverse =
      last :: (pane.dropLast.map fun l => .ofList (dropReturn l.toList)).reverse := by
  have hlines : (lines (unlines pane)).reverse =
      last :: (pane.dropLast.map fun l => .ofList (dropReturn l.toList)).reverse := by
    rw [lines_unlines h.no_newline]
    conv_lhs => rw [← h.dropLast_append]
    rw [List.map_append, List.reverse_append, List.map_singleton,
      dropReturn_of_getLast? h.no_return, String.ofList_toList, List.reverse_singleton,
      List.singleton_append]
  rw [shownLines, dropBlankTail, List.reverse_reverse, hlines,
    List.dropWhile_cons_of_neg (by simp [h.not_blank])]

theorem fromBottom_shown (h : ShowsLast pane last) :
    fromBottom (shownLines (unlines pane)) 0 = last := by
  rw [fromBottom, h.reverse_shownLines]
  rfl

theorem fromBottom_shown_one (h : ShowsLast pane last) :
    fromBottom (shownLines (unlines pane)) 1 =
      ((pane.dropLast.getLast?).map fun l => String.ofList (dropReturn l.toList)).getD "" := by
  rw [fromBottom, h.reverse_shownLines, List.getElem?_cons_succ, ← List.head?_eq_getElem?,
    List.head?_reverse, List.getLast?_map]

theorem isPrefix_dropReturn_iff {p l : List Char} (hp : '\r' ∉ p) :
    p <+: dropReturn l ↔ p <+: l := by
  unfold dropReturn
  split
  · rename_i hlast
    conv_rhs => rw [← List.dropLast_append_getLast? _ hlast]
    rw [List.prefix_concat_iff]
    constructor
    · exact Or.inr
    · rintro (rfl | h)
      · exact absurd (by simp) hp
      · exact h
  · rfl

theorem IsMarker.return_not_mem_toList (hm : IsMarker marker) : '\r' ∉ marker.toList := by
  intro h
  exact absurd (hm.no_blank _ h) (by decide)

theorem IsMarker.toList_ne_nil (hm : IsMarker marker) : marker.toList ≠ [] := by
  intro h
  exact hm.ne_empty (by rw [← String.toList_inj, h]; rfl)

/-- A marker shows when it starts the last line or the one above. -/
theorem showsMarker_iff (hm : IsMarker marker) (h : ShowsLast pane last) :
    showsMarker (shownLines (unlines pane)) marker = true ↔
      marker.toList <+: last.toList ∨
        ∃ l, pane.dropLast.getLast? = some l ∧ marker.toList <+: l.toList := by
  rw [showsMarker, Bool.or_eq_true, startsWith_iff, startsWith_iff, fromBottom_shown h,
    fromBottom_shown_one h]
  cases habove : pane.dropLast.getLast? with
  | none => simp [hm.toList_ne_nil]
  | some l =>
    rw [Option.map_some, Option.getD_some, String.toList_ofList,
      isPrefix_dropReturn_iff hm.return_not_mem_toList]
    simp

/-- A proper marker that is no dollar sign does not start a line with a prompt. -/
theorem not_isPrefix_prompt (hm : IsMarker marker) (hdollar : marker ≠ "$") (typed : String) :
    ¬ marker.toList <+: ("$ " ++ typed).toList := by
  rw [String.toList_append, show "$ ".toList = ['$', ' '] from rfl]
  intro hp
  cases hlist : marker.toList with
  | nil => exact hm.toList_ne_nil hlist
  | cons c cs =>
    rw [hlist, List.cons_append, List.cons_prefix_cons] at hp
    cases cs with
    | nil => exact hdollar (by rw [← String.toList_inj, hlist, hp.1]; rfl)
    | cons d cs =>
      rw [List.cons_append, List.cons_prefix_cons] at hp
      have hblank := hm.no_blank d (by simp [hlist])
      rw [hp.2.1] at hblank
      exact absurd hblank (by decide)

end PaneRunner.Tmux
