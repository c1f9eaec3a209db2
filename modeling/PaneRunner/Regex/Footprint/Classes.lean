import PaneRunner.Regex.Footprint.Build
import PaneRunner.Text.Utf8Ranges
import Std.Data.HashMap

/-
  The states for a set of characters. A set in ASCII takes one state; any other is an automaton
  over the UTF-8 forms. States are looked up before they are made, in a table with a fixed number
  of slots in which a later state takes the slot of an earlier one; so how many states there are
  depends on their numbers, and the hash is part of the rule.
-/
namespace PaneRunner.Regex.Footprint

open Text.Utf8Ranges (ByteRange sequences)

/-- The hash of some numbers. -/
def fnv (ns : List Nat) : UInt64 :=
  ns.foldl (fun h n => (h ^^^ n.toUInt64) * 1099511628211) 14695981039346656037

/-- A table of states by keys of numbers, one to a slot. -/
structure Slots where
  count : Nat
  held : Std.HashMap Nat (List Nat × Nat) := {}

/-- A step of building that looks states up. -/
abbrev Sharing := StateT Slots Making

/-- The state with a key, made if the slot of the key does not hold it. -/
def shared (key : List Nat) (make : Making Nat) : Sharing Nat := do
  let slots ← get
  let slot := (fnv key).toNat % slots.count
  match slots.held[slot]? with
  | some (key', id) => if key' = key then return id
  | none => pure ()
  let id ← make
  set { slots with held := slots.held.insert slot (key, id) }
  pure id

/-- Sequences that start with the same range, next to each other, with what follows it. -/
def groups : List (List ByteRange) → List (ByteRange × List (List ByteRange))
  | [] => []
  | [] :: rest => groups rest
  | (r :: rs) :: rest =>
    match groups rest with
    | (r', tails) :: more =>
      if r = r' then (r, rs :: tails) :: more else (r, [rs]) :: (r', tails) :: more
    | [] => [(r, [rs])]

/-- The state from which sequences of `length` ranges at most lead to `target`. The states behind
it are made first. -/
def forwardNode (target : Nat) : Nat → List (List ByteRange) → Sharing Nat
  | 0, _ => pure target
  | length + 1, seqs =>
    match groups seqs with
    | [] => pure target
    | gs => do
      let arrows ← gs.mapM fun (r, tails) => do
        pure [r.low, r.high, ← forwardNode target length tails]
      shared arrows.flatten (branching gs.length)

/-- A sequence read backward, from its last byte to its first, which leads to `finish`: a state for
each byte, the last of them to be entered first. -/
def backwardFrom (finish : Nat) : List ByteRange → Sharing Nat
  | [] => pure finish
  | r :: rs => do
    let id ← shared [finish, r.low, r.high] (branching 0)
    backwardFrom id rs

/-- A set of characters. -/
def charsPart (d : Direction) (s : CharSet) : Part := do
  let target := (← get).states
  if s.isAscii then
    state
    let _ ← branching s.ranges.length
    pure .plain
  else
    let seqs := s.ranges.flatMap fun r => sequences r.1 r.2
    match d with
    | .forward =>
      state
      let _ ← (forwardNode target 4 seqs).run' ⟨10000, {}⟩
      pure .plain
    | .backward =>
      grow 2 0
      let _ ← (seqs.forM fun seq => do
        let _ ← backwardFrom (target + 1) seq
        (way : Making Unit)).run' ⟨1000, {}⟩
      pure .plain

end PaneRunner.Regex.Footprint
