import Mathlib.Logic.Function.Basic
import PaneRunner.Proofs.Plan.Stepwise

/-
  Plans side by side. Plans that share an executor take turns, and a turn is a step of one of them:
  `Pool` holds how far each has come, and `interleave` follows a list of turns. The list is arbitrary,
  so a fact about all lists holds of every interleaving: `interleave_induction` has it from what every
  turn preserves. A plan with few questions has ended after as many turns
  (`isSome_result?_interleave`), and then stays so (`result?_interleave`).
-/
namespace PaneRunner.Plan

open Underway

variable {ρ : Type} {Answer : ρ → Type} {ι α σ : Type} {ex : Executor Answer σ}

/-- A turn: whose it is, and how long the wait at the head of its plan has lasted. -/
structure Turn (ι : Type) where
  who : ι
  elapsed : Duration := .zero

/-- Plans that share an executor. -/
structure Pool {ρ : Type} (Answer : ρ → Type) (ι α σ : Type) where
  plans : ι → Underway Answer α
  state : σ

namespace Pool

/-- No plan has asked anything yet. -/
def start (plans : ι → Plan Answer α) (s : σ) : Pool Answer ι α σ :=
  { plans := fun i => { plan := plans i }, state := s }

/-- The value of a plan that has ended. -/
def result? (pool : Pool Answer ι α σ) (i : ι) : Option α := (pool.plans i).result?

variable [DecidableEq ι]

/-- The pool after a turn. -/
def turn (ex : Executor Answer σ) (pool : Pool Answer ι α σ) (t : Turn ι) : Pool Answer ι α σ :=
  let (u, s) := (pool.plans t.who).step ex t.elapsed pool.state
  { plans := Function.update pool.plans t.who u, state := s }

/-- The pool after turn upon turn. -/
def interleave (ex : Executor Answer σ) (pool : Pool Answer ι α σ) (turns : List (Turn ι)) :
    Pool Answer ι α σ :=
  turns.foldl (turn ex) pool

/-- How many of the turns are `i`'s. -/
def turnsOf (i : ι) (turns : List (Turn ι)) : Nat := turns.countP fun t => t.who = i

variable (ex) in
theorem interleave_append (pool : Pool Answer ι α σ) (turns turns' : List (Turn ι)) :
    pool.interleave ex (turns ++ turns') = (pool.interleave ex turns).interleave ex turns' :=
  List.foldl_append

/-- What every turn preserves holds after all turns. -/
theorem interleave_induction {P : Pool Answer ι α σ → Prop}
    (hturn : ∀ pool t, P pool → P (pool.turn ex t)) {pool : Pool Answer ι α σ} (h : P pool)
    (turns : List (Turn ι)) : P (pool.interleave ex turns) := by
  induction turns generalizing pool with
  | nil => exact h
  | cons t turns ih => exact ih (hturn pool t h)

theorem plans_turn_self (pool : Pool Answer ι α σ) (t : Turn ι) :
    (pool.turn ex t).plans t.who = ((pool.plans t.who).step ex t.elapsed pool.state).1 :=
  Function.update_self ..

theorem plans_turn_of_ne (pool : Pool Answer ι α σ) {t : Turn ι} {i : ι} (h : i ≠ t.who) :
    (pool.turn ex t).plans i = pool.plans i :=
  Function.update_of_ne h ..

variable (ex) in
/-- A plan that has ended keeps its value. -/
theorem result?_interleave {pool : Pool Answer ι α σ} {i : ι} {a : α}
    (h : pool.result? i = some a) (turns : List (Turn ι)) :
    (pool.interleave ex turns).result? i = some a := by
  refine interleave_induction (P := fun pool => pool.result? i = some a) (fun pool t h => ?_) h turns
  unfold result? at h ⊢
  by_cases hi : i = t.who
  · subst hi
    rw [plans_turn_self, step_of_result? h]
    exact h
  · rw [plans_turn_of_ne pool hi]
    exact h

/-- A plan with few questions has ended after as many turns. -/
theorem isSome_result?_interleave {most : Nat} {pool : Pool Answer ι α σ} {i : ι}
    (h : Short most (pool.plans i).plan) {turns : List (Turn ι)} (hturns : most ≤ turnsOf i turns) :
    ((pool.interleave ex turns).result? i).isSome = true := by
  induction turns generalizing most pool with
  | nil =>
    obtain rfl : most = 0 := Nat.le_zero.1 hturns
    exact h.isSome_result?
  | cons t turns ih =>
    rw [turnsOf, List.countP_cons] at hturns
    by_cases hi : t.who = i
    · subst hi
      have hshort := h.step ex t.elapsed pool.state
      rw [← plans_turn_self] at hshort
      exact ih hshort (Nat.sub_le_of_le_add (by simpa [turnsOf] using hturns))
    · have hshort : Short most ((pool.turn ex t).plans i).plan := by
        rw [plans_turn_of_ne pool (Ne.symm hi)]
        exact h
      exact ih hshort (by simpa [turnsOf, hi] using hturns)

variable (ex) in
/-- The turns of one plan are its steps. -/
theorem interleave_own (pool : Pool Answer ι α σ) (i : ι) (elapsed : List Duration) :
    (pool.interleave ex (elapsed.map fun t => ⟨i, t⟩)).plans i =
        (steps ex elapsed (pool.plans i, pool.state)).1 ∧
      (pool.interleave ex (elapsed.map fun t => ⟨i, t⟩)).state =
        (steps ex elapsed (pool.plans i, pool.state)).2 := by
  induction elapsed generalizing pool with
  | nil => exact ⟨rfl, rfl⟩
  | cons t elapsed ih =>
    have hrest := ih (pool.turn ex ⟨i, t⟩)
    rw [plans_turn_self pool ⟨i, t⟩] at hrest
    exact hrest

theorem turnsOf_own (i : ι) (elapsed : List Duration) :
    turnsOf i (elapsed.map fun t => (⟨i, t⟩ : Turn ι)) = elapsed.length := by
  unfold turnsOf
  rw [List.countP_map, List.countP_eq_length]
  intro t _
  exact decide_eq_true rfl

end Pool

end PaneRunner.Plan
