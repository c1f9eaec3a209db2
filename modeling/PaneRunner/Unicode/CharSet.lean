/-
  Sets of characters. A set is kept as the ascending list of the code points where membership
  changes: `[48, 58]` is the set of the ten digits. `merge` walks two such lists side by side, and
  every operation on sets is an instance of it; `has_combine` says what it computes.
-/
namespace PaneRunner

namespace CharSet

/-- In ascending order, all from `least` on. -/
def ascendsFrom (least : Nat) : List Nat → Bool
  | [] => true
  | a :: as => decide (least ≤ a) && ascendsFrom (a + 1) as

/-- Whether `n` is in, if `p` says so of what comes before the first flip. -/
def state (p : Bool) : List Nat → Nat → Bool
  | [], _ => p
  | a :: as, n => if n < a then p else state (!p) as n

/-- A flip, if there is one at all. -/
def flipIf (changes : Bool) (a : Nat) (rest : List Nat) : List Nat :=
  if changes then a :: rest else rest

/-- The flips of a combination of two sets; `p` and `q` hold before the flips still to come. -/
def merge (op : Bool → Bool → Bool) (p q : Bool) : List Nat → List Nat → List Nat
  | [], [] => []
  | a :: as, [] => flipIf (op p q != op (!p) q) a (merge op (!p) q as [])
  | [], b :: bs => flipIf (op p q != op p (!q)) b (merge op p (!q) [] bs)
  | a :: as, b :: bs =>
    if a < b then flipIf (op p q != op (!p) q) a (merge op (!p) q as (b :: bs))
    else if b < a then flipIf (op p q != op p (!q)) b (merge op p (!q) (a :: as) bs)
    else flipIf (op p q != op (!p) (!q)) a (merge op (!p) (!q) as bs)
termination_by as bs => as.length + bs.length

theorem ascendsFrom_mono {m m' : Nat} {as : List Nat} (h : ascendsFrom m as = true)
    (hm : m' ≤ m) : ascendsFrom m' as = true := by
  cases as with
  | nil => rfl
  | cons a as => simp_all [ascendsFrom]; omega

theorem state_of_lt {p : Bool} {m n : Nat} {as : List Nat} (h : ascendsFrom m as = true)
    (hn : n < m) : state p as n = p := by
  cases as with
  | nil => rfl
  | cons a as =>
    simp only [ascendsFrom, Bool.and_eq_true, decide_eq_true_eq] at h
    simp [state, Nat.lt_of_lt_of_le hn h.1]

theorem ascendsFrom_flipIf {changes : Bool} {m a : Nat} {rest : List Nat} (ha : m ≤ a)
    (h : ascendsFrom (a + 1) rest = true) : ascendsFrom m (flipIf changes a rest) = true := by
  unfold flipIf
  split
  · simp [ascendsFrom, ha, h]
  · exact ascendsFrom_mono h (by omega)

theorem ascendsFrom_merge (op : Bool → Bool → Bool) (p q : Bool) (as bs : List Nat) {m : Nat}
    (ha : ascendsFrom m as = true) (hb : ascendsFrom m bs = true) :
    ascendsFrom m (merge op p q as bs) = true := by
  fun_induction merge op p q as bs generalizing m with
  | case1 => rfl
  | case2 p q a as ih =>
    simp only [ascendsFrom, Bool.and_eq_true, decide_eq_true_eq] at ha
    exact ascendsFrom_flipIf ha.1 (ih ha.2 rfl)
  | case3 p q b bs ih =>
    simp only [ascendsFrom, Bool.and_eq_true, decide_eq_true_eq] at hb
    exact ascendsFrom_flipIf hb.1 (ih rfl hb.2)
  | case4 p q a as b bs h ih =>
    simp only [ascendsFrom, Bool.and_eq_true, decide_eq_true_eq] at ha hb
    exact ascendsFrom_flipIf ha.1 (ih ha.2 (by simp [ascendsFrom, hb.2]; omega))
  | case5 p q a as b bs h h' ih =>
    simp only [ascendsFrom, Bool.and_eq_true, decide_eq_true_eq] at ha hb
    exact ascendsFrom_flipIf hb.1 (ih (by simp [ascendsFrom, ha.2]; omega) hb.2)
  | case6 p q a as b bs h h' ih =>
    obtain rfl : a = b := by omega
    simp only [ascendsFrom, Bool.and_eq_true, decide_eq_true_eq] at ha hb
    exact ascendsFrom_flipIf ha.1 (ih ha.2 hb.2)

/-- After a flip that is kept only if it changes something, the value is that of the new state
from there on. -/
theorem state_flipIf {u v : Bool} {a n : Nat} {rest : List Nat}
    (h : ascendsFrom (a + 1) rest = true) :
    state u (flipIf (u != v) a rest) n = if n < a then u else state v rest n := by
  unfold flipIf
  split <;> rename_i hc
  · have : v = !u := by cases u <;> cases v <;> simp_all
    simp [state, this]
  · have : v = u := by cases u <;> cases v <;> simp_all
    subst this
    split
    · exact state_of_lt h (by omega)
    · rfl

theorem state_merge (op : Bool → Bool → Bool) (p q : Bool) (as bs : List Nat) (n : Nat) {m : Nat}
    (ha : ascendsFrom m as = true) (hb : ascendsFrom m bs = true) :
    state (op p q) (merge op p q as bs) n = op (state p as n) (state q bs n) := by
  fun_induction merge op p q as bs generalizing m with
  | case1 => rfl
  | case2 p q a as ih =>
    simp only [ascendsFrom, Bool.and_eq_true, decide_eq_true_eq] at ha
    rw [state_flipIf (ascendsFrom_merge op _ _ _ _ ha.2 rfl), ih ha.2 rfl]
    simp only [state]
    split <;> rfl
  | case3 p q b bs ih =>
    simp only [ascendsFrom, Bool.and_eq_true, decide_eq_true_eq] at hb
    rw [state_flipIf (ascendsFrom_merge op _ _ _ _ rfl hb.2), ih rfl hb.2]
    simp only [state]
    split <;> rfl
  | case4 p q a as b bs h ih =>
    simp only [ascendsFrom, Bool.and_eq_true, decide_eq_true_eq] at ha hb
    have hb' : ascendsFrom (a + 1) (b :: bs) = true := by simp [ascendsFrom, hb.2]; omega
    rw [state_flipIf (ascendsFrom_merge op _ _ _ _ ha.2 hb'), ih ha.2 hb']
    split <;> rename_i hn
    · rw [state_of_lt hb' (by omega)]
      simp [state, hn]
    · simp [state, hn]
  | case5 p q a as b bs h h' ih =>
    simp only [ascendsFrom, Bool.and_eq_true, decide_eq_true_eq] at ha hb
    have ha' : ascendsFrom (b + 1) (a :: as) = true := by simp [ascendsFrom, ha.2]; omega
    rw [state_flipIf (ascendsFrom_merge op _ _ _ _ ha' hb.2), ih ha' hb.2]
    split <;> rename_i hn
    · rw [state_of_lt ha' (by omega)]
      simp [state, hn]
    · simp [state, hn]
  | case6 p q a as b bs h h' ih =>
    obtain rfl : a = b := by omega
    simp only [ascendsFrom, Bool.and_eq_true, decide_eq_true_eq] at ha hb
    rw [state_flipIf (ascendsFrom_merge op _ _ _ _ ha.2 hb.2), ih ha.2 hb.2]
    simp only [state]
    split <;> rfl

end CharSet

/-- A set of code points. -/
structure CharSet where
  /-- the code points where membership changes -/
  flips : List Nat := []
  ascends : CharSet.ascendsFrom 0 flips = true := by decide
  deriving DecidableEq

namespace CharSet

/-- Whether a code point is in the set. -/
def has (s : CharSet) (n : Nat) : Bool := state false s.flips n

/-- Whether a character is in the set. -/
def contains (s : CharSet) (c : Char) : Bool := s.has c.toNat

/-- The sets combined by an operation that leaves out what neither has. -/
def combine (op : Bool → Bool → Bool) (s t : CharSet) : CharSet :=
  ⟨merge op false false s.flips t.flips, ascendsFrom_merge op _ _ _ _ s.ascends t.ascends⟩

theorem has_combine {op : Bool → Bool → Bool} (h : op false false = false) (s t : CharSet)
    (n : Nat) : (combine op s t).has n = op (s.has n) (t.has n) := by
  have := state_merge op false false _ _ n s.ascends t.ascends
  rwa [h] at this

/-- The set with nothing in it. -/
def empty : CharSet := {}

/-- All characters: the code points without the surrogates. -/
def all : CharSet := { flips := [0, 0xD800, 0xE000, 0x110000] }

/-- What is in one of two sets, or in both. -/
def union : CharSet → CharSet → CharSet := combine (· || ·)

/-- What is in both of two sets. -/
def inter : CharSet → CharSet → CharSet := combine (· && ·)

/-- What is in the first set and not in the second. -/
def diff : CharSet → CharSet → CharSet := combine fun p q => p && !q

/-- What is in one of two sets and not in the other. -/
def symmDiff : CharSet → CharSet → CharSet := combine xor

/-- All characters that are not in the set. -/
def compl (s : CharSet) : CharSet := all.diff s

theorem has_union (s t : CharSet) (n : Nat) : (s.union t).has n = (s.has n || t.has n) :=
  has_combine rfl s t n

theorem has_inter (s t : CharSet) (n : Nat) : (s.inter t).has n = (s.has n && t.has n) :=
  has_combine rfl s t n

theorem has_diff (s t : CharSet) (n : Nat) : (s.diff t).has n = (s.has n && !t.has n) :=
  has_combine rfl s t n

theorem has_compl (s : CharSet) (n : Nat) : s.compl.has n = (all.has n && !s.has n) :=
  has_diff all s n

/-- The set with the given flips; empty if they are out of order. -/
def ofFlips (flips : List Nat) : CharSet :=
  if h : ascendsFrom 0 flips = true then ⟨flips, h⟩ else empty

/-- The set of the given ranges, which are in ascending order and apart from each other. -/
def ofRanges (rs : List (Nat × Nat)) : CharSet :=
  (ofFlips (rs.flatMap fun r => [r.1, r.2 + 1])).inter all

/-- The characters from one to another. -/
def range (low high : Char) : CharSet := ofRanges [(low.toNat, high.toNat)]

/-- The set of one character. -/
def single (c : Char) : CharSet := range c c

/-- The union of some sets. -/
def unions (ss : List CharSet) : CharSet := ss.foldr union empty

theorem has_unions (ss : List CharSet) (n : Nat) : (unions ss).has n = ss.any (·.has n) := by
  induction ss with
  | nil => rfl
  | cons s ss ih =>
    show (s.union (unions ss)).has n = _
    rw [has_union, ih, List.any_cons]

/-- The runs of a list of numbers, as ranges. -/
def runs : List Nat → List (Nat × Nat)
  | [] => []
  | n :: ns =>
    match runs ns with
    | (low, high) :: rest =>
      if low ≤ n + 1 then (n, high) :: rest else (n, n) :: (low, high) :: rest
    | [] => [(n, n)]

/-- The set of some code points. -/
def ofList (ns : List Nat) : CharSet := ofRanges (runs (ns.mergeSort (· ≤ ·)))

/-- The ranges between flips. -/
def pairs : List Nat → List (Nat × Nat)
  | [] => []
  | [a] => [(a, 0x10FFFF)]
  | a :: b :: rest => (a, b - 1) :: pairs rest

/-- The ranges of the set, in ascending order and apart from each other. -/
def ranges (s : CharSet) : List (Nat × Nat) := pairs s.flips

/-- Whether there is nothing in the set. -/
def isEmpty (s : CharSet) : Bool := s.flips.isEmpty

/-- Whether all characters of the set are in ASCII. -/
def isAscii (s : CharSet) : Bool := s.flips.all (· ≤ 128)

/-- The only character of the set, if it has exactly one. -/
def only? (s : CharSet) : Option Char :=
  match s.ranges with
  | [(low, high)] => if low = high then some (.ofNat low) else none
  | _ => none

end CharSet

end PaneRunner
