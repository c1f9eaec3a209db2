import Mathlib.Data.List.Basic
import PaneRunner.Exec.Request

/-
  Cutting at a separator. `pieces_append_cons`: a separator in the middle ends the piece before it
  and starts the next. From it, `fileLines_line` and `lines_unlines`: a line with a newline after
  it is the first line of a file, and texts without newlines come back from `unlines`, less the
  carriage return that each of them may end in.
-/
namespace PaneRunner.Text

section Pieces

variable {α : Type} [DecidableEq α] {sep : α} {xs ys : List α}

theorem pieces_of_not_mem (h : sep ∉ xs) : pieces sep xs = [xs] := by
  induction xs with
  | nil => rfl
  | cons x xs ih =>
    have hx : x ≠ sep := fun e => h (e ▸ List.mem_cons_self)
    rw [pieces, if_neg hx, ih fun m => h (List.mem_cons_of_mem _ m)]

theorem pieces_append_cons (h : sep ∉ xs) (ys : List α) :
    pieces sep (xs ++ sep :: ys) = xs :: pieces sep ys := by
  induction xs with
  | nil => rw [List.nil_append, pieces, if_pos rfl]
  | cons x xs ih =>
    have hx : x ≠ sep := fun e => h (e ▸ List.mem_cons_self)
    rw [List.cons_append, pieces, if_neg hx, ih fun m => h (List.mem_cons_of_mem _ m)]

theorem pieces_eq_splitOn (sep : α) (xs : List α) : pieces sep xs = xs.splitOn sep := by
  rw [List.splitOn_eq_splitOnP]
  induction xs with
  | nil => rfl
  | cons x xs ih =>
    rw [pieces, List.splitOnP_cons_eq_if_modifyHead, ← ih]
    by_cases hx : x = sep
    · rw [if_pos hx, if_pos (beq_iff_eq.2 hx)]
    · rw [if_neg hx, if_neg (mt beq_iff_eq.1 hx)]
      cases hp : pieces sep xs with
      | nil => exact absurd hp (pieces_ne_nil sep xs)
      | cons p ps => rfl

/-- No piece holds the separator. -/
theorem not_mem_of_mem_pieces {p : List α} (h : p ∈ pieces sep xs) : sep ∉ p := by
  induction xs generalizing p with
  | nil =>
    rw [List.mem_singleton.1 h]
    exact List.not_mem_nil
  | cons x xs ih =>
    by_cases hx : x = sep
    · rw [pieces, if_pos hx] at h
      rcases List.mem_cons.1 h with rfl | h
      · exact List.not_mem_nil
      · exact ih h
    · cases hp : pieces sep xs with
      | nil => exact absurd hp (pieces_ne_nil sep xs)
      | cons q qs =>
        rw [pieces, if_neg hx, hp] at h
        rcases List.mem_cons.1 h with rfl | h
        · intro hm
          rcases List.mem_cons.1 hm with e | hm
          · exact hx e.symm
          · exact ih (hp ▸ List.mem_cons_self) hm
        · exact ih (hp ▸ List.mem_cons_of_mem _ h)

/-- The pieces with a text after each of them are the list with that text for every separator and
once more at the end. -/
theorem flatMap_pieces (sep : α) (t xs : List α) :
    (pieces sep xs).flatMap (· ++ t) =
      (xs.flatMap fun x => if x = sep then t else [x]) ++ t := by
  induction xs with
  | nil => simp [pieces]
  | cons x xs ih =>
    by_cases hx : x = sep
    · rw [pieces, if_pos hx, List.flatMap_cons, ih, List.flatMap_cons, if_pos hx,
        List.nil_append, List.append_assoc]
    · cases hp : pieces sep xs with
      | nil => exact absurd hp (pieces_ne_nil sep xs)
      | cons q qs =>
        rw [hp, List.flatMap_cons] at ih
        rw [pieces, if_neg hx, hp, List.flatMap_cons, List.flatMap_cons, if_neg hx,
          List.cons_append, List.cons_append, ih, List.singleton_append, List.cons_append]

/-- The pieces of a list are pieces of every longer list, but for the last of them, which goes on
with the first piece of what was added. -/
theorem exists_pieces_append (sep : α) (xs zs : List α) :
    ∃ whole last, pieces sep xs = whole ++ [last] ∧
      pieces sep (xs ++ zs) = whole ++ (pieces sep zs).modifyHead (last ++ ·) := by
  induction xs with
  | nil =>
    refine ⟨[], [], rfl, ?_⟩
    rw [List.nil_append, List.nil_append]
    cases pieces sep zs <;> rfl
  | cons x xs ih =>
    obtain ⟨whole, last, hxs, hxz⟩ := ih
    by_cases hx : x = sep
    · refine ⟨[] :: whole, last, ?_, ?_⟩
      · rw [pieces, if_pos hx, hxs, List.cons_append]
      · rw [List.cons_append, pieces, if_pos hx, hxz, List.cons_append]
    · obtain ⟨q, qs, hq⟩ := List.exists_cons_of_ne_nil (pieces_ne_nil sep zs)
      cases whole with
      | nil =>
        rw [List.nil_append] at hxs
        rw [hq, List.nil_append, List.modifyHead_cons] at hxz
        refine ⟨[], x :: last, ?_, ?_⟩
        · rw [pieces, if_neg hx, hxs]
          rfl
        · rw [List.cons_append, pieces, if_neg hx, hxz, hq]
          rfl
      | cons p whole =>
        rw [List.cons_append] at hxs hxz
        refine ⟨(x :: p) :: whole, last, ?_, ?_⟩
        · rw [pieces, if_neg hx, hxs]
          rfl
        · rw [List.cons_append, pieces, if_neg hx, hxz]
          rfl

end Pieces

/-! ## Pieces put back -/

section Join

variable {α : Type} {sep : List α} {ps qs : List (List α)}

theorem joinWith_cons (sep p : List α) (ps : List (List α)) :
    joinWith sep (p :: ps) = p ++ ps.flatMap (sep ++ ·) := by
  induction ps generalizing p with
  | nil => exact (List.append_nil p).symm
  | cons q ps ih => rw [joinWith, ih, List.flatMap_cons, List.append_assoc, List.append_assoc]

theorem joinWith_append (sep : List α) (hp : ps ≠ []) (hq : qs ≠ []) :
    joinWith sep (ps ++ qs) = joinWith sep ps ++ sep ++ joinWith sep qs := by
  obtain ⟨q, qs, rfl⟩ := List.exists_cons_of_ne_nil hq
  induction ps with
  | nil => exact absurd rfl hp
  | cons p ps ih =>
    cases ps with
    | nil => rfl
    | cons p' ps =>
      have hstep := ih (List.cons_ne_nil p' ps)
      rw [List.cons_append] at hstep
      rw [List.cons_append, List.cons_append, joinWith, hstep, joinWith]
      simp only [List.append_assoc]

theorem joinWith_modifyHead (t : List α) (hp : ps ≠ []) :
    joinWith sep (ps.modifyHead (t ++ ·)) = t ++ joinWith sep ps := by
  obtain ⟨p, ps, rfl⟩ := List.exists_cons_of_ne_nil hp
  cases ps with
  | nil => rfl
  | cons p' ps =>
    rw [List.modifyHead_cons, joinWith, joinWith]
    simp only [List.append_assoc]

theorem mem_joinWith {x : α} (h : x ∈ joinWith sep ps) : x ∈ sep ∨ ∃ p ∈ ps, x ∈ p := by
  induction ps with
  | nil => cases h
  | cons p ps ih =>
    cases ps with
    | nil => exact Or.inr ⟨p, List.mem_cons_self, h⟩
    | cons p' ps =>
      rw [joinWith, List.mem_append, List.mem_append] at h
      rcases h with (h | h) | h
      · exact Or.inr ⟨p, List.mem_cons_self, h⟩
      · exact Or.inl h
      · rcases ih h with h | ⟨q, hq, h⟩
        · exact Or.inl h
        · exact Or.inr ⟨q, List.mem_cons_of_mem _ hq, h⟩

theorem mem_joinWith_of_mem (sep : List α) {x : α} {p : List α} (hp : p ∈ ps) (hx : x ∈ p) :
    x ∈ joinWith sep ps := by
  induction ps with
  | nil => cases hp
  | cons q ps ih =>
    cases ps with
    | nil => exact List.mem_singleton.1 hp ▸ hx
    | cons q' ps =>
      rw [joinWith]
      rcases List.mem_cons.1 hp with rfl | hp
      · exact List.mem_append_left _ (List.mem_append_left _ hx)
      · exact List.mem_append_right _ (ih hp)

end Join

/-! ## Lines of a file -/

/-- A line with a newline after it is the first line of a file. -/
theorem fileLines_line {l : Bytes} (h : 10 ∉ l) (rest : Bytes) :
    Exec.fileLines (l ++ 10 :: rest) = l :: Exec.fileLines rest := by
  have hne : l ++ 10 :: rest ≠ [] := by simp
  rw [Exec.fileLines, if_neg hne]
  cases rest with
  | nil =>
    rw [if_pos (by simp), List.dropLast_concat, pieces_of_not_mem h]
    rfl
  | cons b bs =>
    have hlast : (l ++ 10 :: b :: bs).getLast? = (b :: bs).getLast? := by
      rw [List.getLast?_append, List.getLast?_cons_cons, List.getLast?_cons, Option.some_or]
    rw [Exec.fileLines, if_neg (List.cons_ne_nil b bs), hlast]
    split
    · rw [List.dropLast_append_of_ne_nil (List.cons_ne_nil 10 _), List.dropLast_cons_cons,
        pieces_append_cons h]
    · rw [pieces_append_cons h]

/-- What stands behind the last newline is a line unless it is empty. -/
theorem fileLines_of_not_mem {l : Bytes} (h : 10 ∉ l) (hne : l ≠ []) : Exec.fileLines l = [l] := by
  have hlast : l.getLast? ≠ some 10 := fun e => h (List.mem_of_getLast? e)
  rw [Exec.fileLines, if_neg hne, if_neg hlast, pieces_of_not_mem h]

/-- What starts a file starts its first line. -/
theorem exists_fileLines_append {p : Bytes} (h : 10 ∉ p) (hne : p ≠ []) (rest : Bytes) :
    ∃ q more, Exec.fileLines (p ++ rest) = (p ++ q) :: more := by
  by_cases hr : 10 ∈ rest
  · obtain ⟨q, rest', rfl, hq⟩ := List.eq_append_cons_of_mem hr
    refine ⟨q, Exec.fileLines rest', ?_⟩
    rw [← List.append_assoc, fileLines_line (by simpa using ⟨h, hq⟩)]
  · exact ⟨rest, [], fileLines_of_not_mem (by simpa using ⟨h, hr⟩) (by simp [hne])⟩

/-- Lines that end in a carriage return and a newline each come first in a file. -/
theorem fileLines_flatMap {ls : List Bytes} (h : ∀ l ∈ ls, 10 ∉ l) (rest : Bytes) :
    Exec.fileLines (ls.flatMap (· ++ [13, 10]) ++ rest) =
      ls.map (· ++ [13]) ++ Exec.fileLines rest := by
  induction ls with
  | nil => rfl
  | cons l ls ih =>
    have hl : 10 ∉ l ++ [13] := by simpa using h l List.mem_cons_self
    have hstep := fileLines_line hl (ls.flatMap (· ++ [13, 10]) ++ rest)
    rw [ih fun m hm => h m (List.mem_cons_of_mem _ hm)] at hstep
    simpa using hstep

theorem pieces_flatMap {ls : List Bytes} (h : ∀ l ∈ ls, 10 ∉ l) (rest : Bytes) :
    pieces 10 (ls.flatMap (· ++ [13, 10]) ++ rest) = ls.map (· ++ [13]) ++ pieces 10 rest := by
  induction ls with
  | nil => rfl
  | cons l ls ih =>
    have hl : 10 ∉ l ++ [13] := by simpa using h l List.mem_cons_self
    have hstep := pieces_append_cons hl (ls.flatMap (· ++ [13, 10]) ++ rest)
    rw [ih fun m hm => h m (List.mem_cons_of_mem _ hm)] at hstep
    simpa using hstep

/-- The lines of a file are its pieces, but for an empty piece at the end. -/
theorem pieces_eq_fileLines (content : Bytes) :
    pieces 10 content = Exec.fileLines content ∨
      pieces 10 content = Exec.fileLines content ++ [[]] := by
  unfold Exec.fileLines
  split
  · rename_i h
    exact Or.inr (by rw [h]; rfl)
  split
  · rename_i h
    obtain ⟨whole, last, hd, hc⟩ := exists_pieces_append 10 content.dropLast [10]
    rw [List.dropLast_append_getLast? 10 h] at hc
    exact Or.inr (by rw [hc, hd]; simp [pieces])
  · exact Or.inl rfl

/-- Below its first line, what was written of a file so far holds nothing but starts of lines of the
file. -/
theorem mem_drop_fileLines {xs ys l : Bytes} (h : xs <+: ys) (hl : l ∈ (Exec.fileLines xs).drop 1) :
    ∃ l' ∈ (pieces 10 ys).drop 1, l <+: l' := by
  obtain ⟨zs, rfl⟩ := h
  obtain ⟨whole, last, hxs, hxz⟩ := exists_pieces_append 10 xs zs
  have hl : l ∈ (whole ++ [last]).drop 1 := by
    rw [← hxs]
    rcases pieces_eq_fileLines xs with e | e
    · rwa [e]
    · rw [e, List.drop_append]
      exact List.mem_append_left _ hl
  obtain ⟨q, qs, hq⟩ := List.exists_cons_of_ne_nil (pieces_ne_nil 10 zs)
  rw [hxz, hq, List.modifyHead_cons]
  cases whole with
  | nil => cases hl
  | cons p whole =>
    rw [List.cons_append, List.drop_succ_cons, List.drop_zero] at hl ⊢
    rcases List.mem_append.1 hl with hl | hl
    · exact ⟨l, List.mem_append_left _ hl, List.prefix_refl _⟩
    · rw [List.mem_singleton.1 hl]
      exact ⟨last ++ q, List.mem_append_right _ List.mem_cons_self, List.prefix_append _ _⟩

/-- What was written of a file so far holds nothing but starts of lines of the file. -/
theorem mem_fileLines_of_isPrefix {xs ys l : Bytes} (h : xs <+: ys) (hl : l ∈ Exec.fileLines xs) :
    ∃ l' ∈ pieces 10 ys, l <+: l' := by
  -- behind a first line that is empty, every line is below the first
  have hx := fileLines_line (l := []) List.not_mem_nil xs
  have hy := pieces_append_cons (List.not_mem_nil : (10 : UInt8) ∉ []) ys
  have h10 : [] ++ (10 : UInt8) :: xs <+: [] ++ 10 :: ys := by simpa using h
  have := mem_drop_fileLines (l := l) h10 (by rw [hx]; exact hl)
  rwa [hy] at this

/-! ## Lines of a text -/

theorem toList_unlines (ls : List String) :
    (unlines ls).toList = ls.flatMap fun l => l.toList ++ ['\n'] := by
  induction ls with
  | nil => rfl
  | cons l ls ih =>
    rw [List.flatMap_cons, ← ih]
    simp [unlines]

theorem rows_line {l : List Char} (h : '\n' ∉ l) (rest : List Char) :
    rows (l ++ '\n' :: rest) = dropReturn l :: rows rest := by
  cases hp : pieces '\n' rest with
  | nil => exact absurd hp (pieces_ne_nil _ _)
  | cons q qs => simp [rows, pieces_append_cons h, hp]

/-- Texts without newlines come back from `unlines`, less a carriage return at their end. -/
theorem lines_unlines {ls : List String} (h : ∀ l ∈ ls, '\n' ∉ l.toList) :
    lines (unlines ls) = ls.map fun l => .ofList (dropReturn l.toList) := by
  have key : rows (unlines ls).toList = ls.map fun l => dropReturn l.toList := by
    rw [toList_unlines]
    induction ls with
    | nil => rfl
    | cons l ls ih =>
      rw [List.flatMap_cons, List.append_assoc, List.singleton_append,
        rows_line (h l List.mem_cons_self), ih fun m hm => h m (List.mem_cons_of_mem _ hm)]
      rfl
  rw [lines, key, List.map_map]
  rfl

theorem dropReturn_of_getLast? {cs : List Char} (h : cs.getLast? ≠ some '\r') :
    dropReturn cs = cs := if_neg h

/-- Texts without newlines that do not end in a carriage return come back from `unlines`. -/
theorem lines_unlines_self {ls : List String} (h : ∀ l ∈ ls, '\n' ∉ l.toList)
    (h' : ∀ l ∈ ls, l.toList.getLast? ≠ some '\r') : lines (unlines ls) = ls := by
  rw [lines_unlines h]
  refine (List.map_congr_left fun l hl => ?_).trans (List.map_id ls)
  rw [dropReturn_of_getLast? (h' l hl)]
  exact String.ofList_toList

/-- Lines hold no newline. -/
theorem newline_not_mem_of_mem_lines {text l : String} (h : l ∈ lines text) : '\n' ∉ l.toList := by
  obtain ⟨row, hrow, rfl⟩ := List.mem_map.1 h
  rw [String.toList_ofList]
  unfold rows at hrow
  rcases List.mem_append.1 hrow with hrow | hrow
  · obtain ⟨piece, hpiece, rfl⟩ := List.mem_map.1 hrow
    have hnot := not_mem_of_mem_pieces (List.dropLast_subset _ hpiece)
    unfold dropReturn
    split
    · exact fun hmem => hnot (List.dropLast_subset _ hmem)
    · exact hnot
  · split at hrow
    · exact absurd hrow List.not_mem_nil
    · rename_i rest _ hlast
      rw [List.mem_singleton.1 hrow]
      exact not_mem_of_mem_pieces (List.mem_of_getLast? hlast)
    · exact absurd hrow List.not_mem_nil

end PaneRunner.Text
