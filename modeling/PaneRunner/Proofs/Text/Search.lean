import PaneRunner.Text.Search

/-
  What a search finds. `isSome_dropStart?` and `startsWith_iff`: a start is found exactly when it is
  there. `cutAt?_append`: a cut is made at a place when the text sought does not stand further
  left, and for a single element that means that the part before it does not hold the element.
-/
namespace PaneRunner.Text

section Lists

variable {α : Type} [DecidableEq α]

theorem isSome_dropStart? {p xs : List α} : (dropStart? p xs).isSome = true ↔ p <+: xs := by
  rw [Option.isSome_iff_exists]
  exact exists_congr fun rest => dropStart?_eq_some.trans eq_comm

theorem dropStart?_append (p xs : List α) : dropStart? p (p ++ xs) = some xs :=
  dropStart?_eq_some.2 rfl

theorem dropStart?_eq_none {p xs : List α} (h : ¬ p <+: xs) : dropStart? p xs = none := by
  rw [← isSome_dropStart?] at h
  simpa using h

/-- A cut is made where the text sought does not stand further left. -/
theorem cutAt?_append {p l r : List α}
    (h : ∀ l₁ l₂, l = l₁ ++ l₂ → l₂ ≠ [] → ¬ p <+: l₂ ++ (p ++ r)) :
    cutAt? p (l ++ (p ++ r)) = some (l, r) := by
  induction l with
  | nil =>
    rw [List.nil_append]
    cases hx : p ++ r with
    | nil =>
      obtain ⟨rfl, rfl⟩ := List.append_eq_nil_iff.1 hx
      rfl
    | cons x xs => rw [cutAt?, ← hx, dropStart?_append]
  | cons a l ih =>
    have hhere : ¬ p <+: a :: (l ++ (p ++ r)) := h [] (a :: l) rfl (List.cons_ne_nil a l)
    have hrest := ih fun l₁ l₂ e => h (a :: l₁) l₂ (congrArg (a :: ·) e)
    rw [List.cons_append, cutAt?, dropStart?_eq_none hhere, hrest]
    rfl

/-- A text that is there is found, if not where it was put. -/
theorem isSome_cutAt? (l p r : List α) : (cutAt? p (l ++ (p ++ r))).isSome = true := by
  induction l with
  | nil =>
    rw [cutAt?_append fun l₁ l₂ hl hne => absurd (List.append_eq_nil_iff.1 hl.symm).2 hne]
    rfl
  | cons a l ih =>
    rw [List.cons_append, cutAt?]
    split
    · rfl
    · rw [Option.isSome_map]
      exact ih

theorem cutAt?_singleton {a : α} {l : List α} (h : a ∉ l) (r : List α) :
    cutAt? [a] (l ++ a :: r) = some (l, r) := by
  refine cutAt?_append fun l₁ l₂ e hne hp => ?_
  cases l₂ with
  | nil => exact hne rfl
  | cons b l₂ =>
    have hb : a = b := by simpa using hp
    exact h (e ▸ hb ▸ List.mem_append_right _ List.mem_cons_self)

theorem cutAt?_of_not_mem {a : α} {l : List α} (h : a ∉ l) : cutAt? [a] l = none := by
  cases hc : cutAt? [a] l with
  | none => rfl
  | some lr =>
    obtain ⟨l', r'⟩ := lr
    refine absurd ?_ h
    rw [append_of_cutAt? hc]
    simp

/-- What stands before the first `a` holds none. -/
theorem not_mem_of_cutAt? {a : α} {xs l r : List α} (h : cutAt? [a] xs = some (l, r)) : a ∉ l := by
  intro ha
  obtain ⟨l₁, l₂, rfl, hl₁⟩ := List.eq_append_cons_of_mem ha
  have hxs := append_of_cutAt? h
  rw [List.append_assoc, List.append_assoc, List.cons_append] at hxs
  rw [hxs, cutAt?_singleton hl₁, Option.some.injEq, Prod.mk.injEq] at h
  exact absurd h.1.symm (by simp)

/-- Lists that agree, agree before their first `a` and after it. -/
theorem append_cons_inj {a : α} {l l' r r' : List α} (h : a ∉ l) (h' : a ∉ l') :
    l ++ a :: r = l' ++ a :: r' ↔ l = l' ∧ r = r' := by
  constructor
  · intro e
    have hcut := cutAt?_singleton h r
    rw [e, cutAt?_singleton h', Option.some.injEq, Prod.mk.injEq] at hcut
    exact ⟨hcut.1.symm, hcut.2.symm⟩
  · rintro ⟨rfl, rfl⟩
    rfl

end Lists

/-! ## Texts -/

theorem startsWith_iff {s p : String} : startsWith s p = true ↔ p.toList <+: s.toList :=
  isSome_dropStart?

theorem stripStart?_append (p s : String) : stripStart? (p ++ s) p = some s := by
  rw [stripStart?, String.toList_append, dropStart?_append, Option.map_some, String.ofList_toList]

theorem splitOnce?_of_cutAt? {s p l r : String}
    (h : cutAt? p.toList s.toList = some (l.toList, r.toList)) : splitOnce? s p = some (l, r) := by
  simp [splitOnce?, h]

theorem contains_eq_false_iff {s p : String} : contains s p = false ↔ splitOnce? s p = none := by
  rw [contains, splitOnce?, Option.map_eq_none_iff, Option.isSome_eq_false_iff,
    Option.isNone_iff_eq_none]

end PaneRunner.Text
