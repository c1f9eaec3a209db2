import Mathlib.Logic.Function.Basic
import PaneRunner.Proofs.Run.Flush

/-
  The capture files of runs that go on side by side. A step of a run makes its own file, writes to it or
  removes it (`FileStep`); what is in another file stays (`FileStep.lookup`), and the files that were
  there before all runs stay at the front of the list as they are (`FileStep.append`). Hence no two runs
  ever have the same file (`Owned.step`).
-/
namespace PaneRunner.Simulation

open Scene

variable {files base extra files' : List (String × Bytes)} {path q : String} {own own' : Option String}

theorem appended_of_not_mem (h : ∀ f ∈ files, f.1 ≠ path) (content : Bytes) :
    appended files path content = files := by
  refine (List.map_congr_left fun f hf => ?_).trans (List.map_id files)
  exact if_neg (h f hf)

theorem lookup_appended (files : List (String × Bytes)) (path : String) (content : Bytes) :
    (appended files path content).lookup path = (files.lookup path).map (· ++ content) := by
  induction files with
  | nil => rfl
  | cons f files ih =>
    unfold appended at ih ⊢
    rw [List.map_cons, List.lookup_cons, ih, List.lookup_cons]
    by_cases h : f.1 = path
    · simp [h]
    · have hne : (path == f.1) = false := beq_false_of_ne (Ne.symm h)
      simp [h, hne]

theorem lookup_appended_of_ne (h : q ≠ path) (files : List (String × Bytes)) (content : Bytes) :
    (appended files path content).lookup q = files.lookup q := by
  induction files with
  | nil => rfl
  | cons f files ih =>
    unfold appended at ih ⊢
    rw [List.map_cons, List.lookup_cons, ih, List.lookup_cons]
    by_cases hf : f.1 = path
    · have hne : (q == path) = false := beq_false_of_ne h
      simp [hf, hne]
    · simp [hf]

theorem lookup_removed_of_ne (h : q ≠ path) (files : List (String × Bytes)) :
    (files.filter fun f => f.1 != path).lookup q = files.lookup q := by
  induction files with
  | nil => rfl
  | cons f files ih =>
    rw [List.filter_cons, List.lookup_cons]
    by_cases hf : f.1 = path
    · have hne : (q == f.1) = false := beq_false_of_ne (hf ▸ h)
      rw [if_neg (by simpa using hf), hne]
      exact ih
    · rw [if_pos (by simpa using hf), List.lookup_cons, ih]

/-- What a step of a run does to the capture files; `own` and `own'` are the run's own file before and
after. -/
inductive FileStep : Option String → List (String × Bytes) → Option String →
    List (String × Bytes) → Prop where
  | keep (own : Option String) (files : List (String × Bytes)) : FileStep own files own files
  | make {files : List (String × Bytes)} {path : String} (h : ∀ f ∈ files, f.1 ≠ path) :
    FileStep none files (some path) (files ++ [(path, [])])
  | write (path : String) (files : List (String × Bytes)) (content : Bytes) :
    FileStep (some path) files (some path) (appended files path content)
  | remove (path : String) (files : List (String × Bytes)) :
    FileStep (some path) files none (files.filter fun f => f.1 != path)

namespace FileStep

/-- Other files stay as they are. -/
theorem lookup (h : FileStep own files own' files') (hq : q ∉ own) (hq' : q ∉ own') :
    files'.lookup q = files.lookup q := by
  cases h with
  | keep => rfl
  | @make _ path h =>
    have hne : (q == path) = false := beq_false_of_ne fun e => hq' (by rw [e]; rfl)
    rw [List.lookup_append, List.lookup_cons, hne]
    simp
  | write path _ content => exact lookup_appended_of_ne (fun e => hq (by rw [e]; rfl)) _ _
  | remove path => exact lookup_removed_of_ne (fun e => hq (by rw [e]; rfl)) _

/-- A run's own file was its own before, or was not there. -/
theorem fresh (h : FileStep own files own' files') (hpath : path ∈ own') :
    path ∈ own ∨ ∀ f ∈ files, f.1 ≠ path := by
  cases h with
  | keep => exact .inl hpath
  | make h =>
    cases hpath
    exact .inr h
  | write path _ content => exact .inl hpath
  | remove path => cases hpath

/-- Files at the front that are no run's own stay there; behind them are own files. -/
theorem append (h : FileStep own (base ++ extra) own' files') (hbase : ∀ f ∈ base, f.1 ∉ own) :
    ∃ extra', files' = base ++ extra' ∧
      ∀ f ∈ extra', f.1 ∈ own' ∨ f.1 ∉ own ∧ ∃ g ∈ extra, g.1 = f.1 := by
  cases h with
  | keep =>
    refine ⟨extra, rfl, fun f hf => ?_⟩
    by_cases hown : f.1 ∈ own
    · exact .inl hown
    · exact .inr ⟨hown, f, hf, rfl⟩
  | @make _ path h =>
    refine ⟨extra ++ [(path, [])], List.append_assoc .., fun f hf => ?_⟩
    rcases List.mem_append.1 hf with hf | hf
    · exact .inr ⟨nofun, f, hf, rfl⟩
    · rw [List.mem_singleton.1 hf]
      exact .inl rfl
  | write path _ content =>
    have hsame : appended base path content = base :=
      appended_of_not_mem (fun f hf e => hbase f hf (by rw [e]; rfl)) content
    refine ⟨appended extra path content, ?_, fun f hf => ?_⟩
    · unfold appended at hsame ⊢
      rw [List.map_append, hsame]
    · by_cases hown : f.1 ∈ some path
      · exact .inl hown
      · obtain ⟨g, hg, rfl⟩ := List.mem_map.1 hf
        refine .inr ⟨hown, g, hg, ?_⟩
        dsimp only
        split <;> rfl
  | remove path =>
    have hsame : base.filter (fun f => f.1 != path) = base :=
      List.filter_eq_self.2 fun f hf => by
        have hne : f.1 ≠ path := fun e => hbase f hf (by rw [e]; rfl)
        simpa using hne
    refine ⟨extra.filter fun f => f.1 != path, by rw [List.filter_append, hsame], fun f hf => ?_⟩
    obtain ⟨hmem, hne⟩ := List.mem_filter.1 hf
    refine .inr ⟨fun hown => ?_, f, hmem, rfl⟩
    rw [Option.some.inj hown] at hne
    simp at hne

end FileStep

/-! ## Files of many runs -/

variable {ι : Type} {owns : ι → Option String} {i j : ι}

/-- No file is two runs' own or was there before, and every file that was not is some run's own. -/
structure Owned (base : List (String × Bytes)) (owns : ι → Option String)
    (files : List (String × Bytes)) : Prop where
  files : ∃ extra, files = base ++ extra ∧ ∀ f ∈ extra, ∃ i, f.1 ∈ owns i
  foreign : ∀ i, ∀ f ∈ base, f.1 ∉ owns i
  apart : ∀ i j path, i ≠ j → path ∈ owns i → path ∉ owns j

theorem owned_none (base : List (String × Bytes)) : Owned base (fun _ : ι => none) base :=
  ⟨⟨[], (List.append_nil base).symm, nofun⟩, nofun, nofun⟩

/-- When no run has a file, the files are those that were there before. -/
theorem Owned.eq_base (h : Owned base owns files) (hnone : ∀ i, owns i = none) : files = base := by
  obtain ⟨extra, rfl, howned⟩ := h.files
  cases extra with
  | nil => exact List.append_nil base
  | cons f extra =>
    obtain ⟨i, hi⟩ := howned f List.mem_cons_self
    rw [hnone i] at hi
    cases hi

section Step

variable (h : Owned base owns files)
  (hthere : ∀ j, ∀ path ∈ owns j, ∃ f ∈ files, f.1 = path)
  (hstep : FileStep (owns i) files own' files')
include h hthere hstep

/-- What a run has after a step no other run has. -/
theorem Owned.not_mem (hne : j ≠ i) (hpath : path ∈ own') : path ∉ owns j := by
  intro hown
  rcases hstep.fresh hpath with hmine | hfresh
  · exact h.apart i j path (Ne.symm hne) hmine hown
  · obtain ⟨f, hf, hfpath⟩ := hthere j path hown
    exact hfresh f hf hfpath

/-- The files of the other runs hold what they held. -/
theorem Owned.lookup (hne : j ≠ i) (hpath : path ∈ owns j) :
    files'.lookup path = files.lookup path :=
  hstep.lookup (fun hi => h.apart i j path (Ne.symm hne) hi hpath)
    fun hi => h.not_mem hthere hstep hne hi hpath

variable [DecidableEq ι]

theorem Owned.step : Owned base (Function.update owns i own') files' := by
  refine ⟨?_, fun j f hf => ?_, fun j k path hne hj hk => ?_⟩
  · obtain ⟨extra, rfl, howned⟩ := h.files
    obtain ⟨extra', hextra', howned'⟩ := hstep.append (h.foreign i)
    refine ⟨extra', hextra', fun f hf => ?_⟩
    rcases howned' f hf with hmine | ⟨hnot, g, hg, hgf⟩
    · exact ⟨i, by rw [Function.update_self]; exact hmine⟩
    · obtain ⟨j, hj⟩ := howned g hg
      rw [hgf] at hj
      have hne : j ≠ i := fun e => hnot (e ▸ hj)
      exact ⟨j, by rw [Function.update_of_ne hne]; exact hj⟩
  · by_cases hji : j = i
    · subst hji
      rw [Function.update_self]
      intro hmine
      rcases hstep.fresh hmine with hold | hfresh
      · exact h.foreign j f hf hold
      · obtain ⟨extra, rfl, -⟩ := h.files
        exact hfresh f (List.mem_append_left _ hf) rfl
    · rw [Function.update_of_ne hji]
      exact h.foreign j f hf
  · by_cases hji : j = i
    · subst hji
      rw [Function.update_self] at hj
      rw [Function.update_of_ne (Ne.symm hne)] at hk
      exact h.not_mem hthere hstep (Ne.symm hne) hj hk
    · rw [Function.update_of_ne hji] at hj
      by_cases hki : k = i
      · subst hki
        rw [Function.update_self] at hk
        exact h.not_mem hthere hstep hji hk hj
      · rw [Function.update_of_ne hki] at hk
        exact h.apart j k path hne hj hk

end Step

end PaneRunner.Simulation
