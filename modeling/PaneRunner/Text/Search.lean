/-
  Looking for one list inside another: at the start, at the end, anywhere. `append_of_dropStart?`
  and `append_of_cutAt?`: what was found and what was left make up the list.
-/
namespace PaneRunner.Text

/-- The rest after `p`, if the list starts with `p`. -/
def dropStart? {α : Type} [DecidableEq α] : List α → List α → Option (List α)
  | [], xs => some xs
  | _ :: _, [] => none
  | p :: ps, x :: xs => if p = x then dropStart? ps xs else none

/-- The parts before and after the first place where `p` stands. -/
def cutAt? {α : Type} [DecidableEq α] (p : List α) : List α → Option (List α × List α)
  | [] => if p = [] then some ([], []) else none
  | x :: xs =>
    match dropStart? p (x :: xs) with
    | some rest => some ([], rest)
    | none => (cutAt? p xs).map fun (l, r) => (x :: l, r)

theorem dropStart?_eq_some {α : Type} [DecidableEq α] {p xs rest : List α} :
    dropStart? p xs = some rest ↔ xs = p ++ rest := by
  induction p generalizing xs with
  | nil => simp [dropStart?, eq_comm]
  | cons a p ih =>
    cases xs with
    | nil => simp [dropStart?]
    | cons x xs =>
      by_cases h : a = x
      · simp [dropStart?, h, ih]
      · simp [dropStart?, h, Ne.symm h]

theorem append_of_dropStart? {α : Type} [DecidableEq α] {p xs rest : List α}
    (h : dropStart? p xs = some rest) : xs = p ++ rest := dropStart?_eq_some.1 h

theorem append_of_cutAt? {α : Type} [DecidableEq α] {p xs l r : List α}
    (h : cutAt? p xs = some (l, r)) : xs = l ++ p ++ r := by
  induction xs generalizing l r with
  | nil =>
    simp only [cutAt?] at h
    split at h
    · rename_i hp
      simp only [Option.some.injEq, Prod.mk.injEq] at h
      simp [hp, ← h.1, ← h.2]
    · simp at h
  | cons x xs ih =>
    simp only [cutAt?] at h
    split at h
    · rename_i rest hr
      simp only [Option.some.injEq, Prod.mk.injEq] at h
      rw [← h.1, ← h.2, append_of_dropStart? hr, List.nil_append]
    · simp only [Option.map_eq_some_iff, Prod.mk.injEq, Prod.exists] at h
      obtain ⟨l', r', hc, hl, hr⟩ := h
      rw [← hl, ← hr, ih hc]
      rfl

/-- The text starts with `p`. -/
def startsWith (s p : String) : Bool := (dropStart? p.toList s.toList).isSome

/-- The text ends with `p`. -/
def endsWith (s p : String) : Bool := (dropStart? p.toList.reverse s.toList.reverse).isSome

/-- `p` stands somewhere in the text. -/
def contains (s p : String) : Bool := (cutAt? p.toList s.toList).isSome

/-- The texts before and after the first `p`. -/
def splitOnce? (s p : String) : Option (String × String) :=
  (cutAt? p.toList s.toList).map fun (l, r) => (.ofList l, .ofList r)

/-- The rest after `p`, if the text starts with `p`. -/
def stripStart? (s p : String) : Option String := (dropStart? p.toList s.toList).map .ofList

/-- ASCII letters in lower case, all else unchanged. -/
def lower (s : String) : String := .ofList (s.toList.map Char.toLower)

end PaneRunner.Text
