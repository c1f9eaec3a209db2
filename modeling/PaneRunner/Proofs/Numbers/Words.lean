import Mathlib.Algebra.Ring.Int.Defs
import Mathlib.Algebra.Ring.Nat

/-
  Computing in machine words. An operation on words of 64 bits gives the word of the number that it
  stands for, and a fault where there is none; so a computation that comes to a value has met no
  overflow on its way and made no cast that loses something. `add_ofNat`, `sub_ofNat`, `mul_ofNat`,
  `div_ofNat`: on words of natural numbers the operations are those of the natural numbers, the
  difference included, as long as the result fits. `foldlM_product?`: a product that is refused when
  a word cannot hold it may as well be taken factor by factor.
-/
namespace PaneRunner.Words

/-- What a computation in words can stop at, or a cut at a place that is counted in bytes. -/
inductive Fault where
  | overflow
  | zeroDivisor
  | noPlace
  deriving DecidableEq, Repr

/-- The signed word of a number. -/
def signed (i : Int) : Except Fault Int64 :=
  if -2 ^ 63 ≤ i ∧ i < 2 ^ 63 then .ok (.ofInt i) else .error .overflow

/-- The unsigned word of 32 bits of a number. -/
def narrow (i : Int) : Except Fault UInt32 :=
  if 0 ≤ i ∧ i < 2 ^ 32 then .ok (.ofNat i.toNat) else .error .overflow

def add (a b : Int64) : Except Fault Int64 := signed (a.toInt + b.toInt)

def sub (a b : Int64) : Except Fault Int64 := signed (a.toInt - b.toInt)

def mul (a b : Int64) : Except Fault Int64 := signed (a.toInt * b.toInt)

/-- The quotient, rounded toward zero. -/
def div (a b : Int64) : Except Fault Int64 :=
  if b = 0 then .error .zeroDivisor else signed (a.toInt.tdiv b.toInt)

/-- The quotient whose remainder is not negative. -/
def divFloor (a b : Int64) : Except Fault Int64 :=
  if b = 0 then .error .zeroDivisor else signed (a.toInt / b.toInt)

/-- The remainder that is not negative. -/
def modFloor (a b : Int64) : Except Fault Int64 :=
  if b = 0 then .error .zeroDivisor else signed (a.toInt % b.toInt)

/-- The product of two unsigned words, if a word can hold it. -/
def product? (a b : UInt64) : Option UInt64 :=
  if a.toNat * b.toNat < 2 ^ 64 then some (a * b) else none

theorem ok_bind {ε α β : Type} (a : α) (f : α → Except ε β) : (Except.ok a >>= f) = f a := rfl

/-! ## Words of natural numbers -/

theorem literal (n : Nat) : (OfNat.ofNat n : Int64) = .ofNat (OfNat.ofNat n) := rfl

theorem signed_natCast {n : Nat} (h : n < 2 ^ 63) : signed n = .ok (.ofNat n) := by
  rw [signed, if_pos ⟨by omega, by omega⟩, Int64.ofInt_eq_ofNat]

theorem narrow_natCast {n : Nat} (h : n < 2 ^ 32) : narrow n = .ok (.ofNat n) := by
  rw [narrow, if_pos ⟨by omega, by omega⟩, Int.toNat_natCast]

theorem add_ofNat {a b : Nat} (h : a + b < 2 ^ 63) :
    add (.ofNat a) (.ofNat b) = .ok (.ofNat (a + b)) := by
  rw [add, Int64.toInt_ofNat_of_lt (by omega), Int64.toInt_ofNat_of_lt (by omega),
    ← Int.natCast_add, signed_natCast h]

theorem sub_ofNat {a b : Nat} (h : b ≤ a) (ha : a < 2 ^ 63) :
    sub (.ofNat a) (.ofNat b) = .ok (.ofNat (a - b)) := by
  rw [sub, Int64.toInt_ofNat_of_lt ha, Int64.toInt_ofNat_of_lt (by omega), ← Int.natCast_sub h,
    signed_natCast (by omega)]

theorem mul_ofNat {a b : Nat} (ha : a < 2 ^ 63) (hb : b < 2 ^ 63) (h : a * b < 2 ^ 63) :
    mul (.ofNat a) (.ofNat b) = .ok (.ofNat (a * b)) := by
  rw [mul, Int64.toInt_ofNat_of_lt ha, Int64.toInt_ofNat_of_lt hb, ← Int.natCast_mul,
    signed_natCast h]

theorem ofNat_ne_zero {b : Nat} (h : 0 < b) (hb : b < 2 ^ 63) : Int64.ofNat b ≠ 0 := by
  intro h0
  have := congrArg Int64.toInt h0
  rw [Int64.toInt_ofNat_of_lt hb, Int64.toInt_zero] at this
  omega

theorem div_ofNat {a b : Nat} (ha : a < 2 ^ 63) (h : 0 < b) (hb : b < 2 ^ 63) :
    div (.ofNat a) (.ofNat b) = .ok (.ofNat (a / b)) := by
  have hle : a / b ≤ a := Nat.div_le_self a b
  rw [div, if_neg (ofNat_ne_zero h hb), Int64.toInt_ofNat_of_lt ha, Int64.toInt_ofNat_of_lt hb,
    ← Int.ofNat_tdiv, signed_natCast (by omega)]

theorem divFloor_ofNat {a b : Nat} (ha : a < 2 ^ 63) (h : 0 < b) (hb : b < 2 ^ 63) :
    divFloor (.ofNat a) (.ofNat b) = .ok (.ofNat (a / b)) := by
  have hle : a / b ≤ a := Nat.div_le_self a b
  rw [divFloor, if_neg (ofNat_ne_zero h hb), Int64.toInt_ofNat_of_lt ha,
    Int64.toInt_ofNat_of_lt hb, ← Int.natCast_ediv, signed_natCast (by omega)]

theorem modFloor_ofNat {a b : Nat} (ha : a < 2 ^ 63) (h : 0 < b) (hb : b < 2 ^ 63) :
    modFloor (.ofNat a) (.ofNat b) = .ok (.ofNat (a % b)) := by
  have hle : a % b ≤ a := Nat.mod_le a b
  rw [modFloor, if_neg (ofNat_ne_zero h hb), Int64.toInt_ofNat_of_lt ha,
    Int64.toInt_ofNat_of_lt hb, ← Int.natCast_emod, signed_natCast (by omega)]

theorem ofNat_lt_iff {a b : Nat} (ha : a < 2 ^ 63) (hb : b < 2 ^ 63) :
    Int64.ofNat a < .ofNat b ↔ a < b := by
  rw [Int64.lt_iff_toInt_lt, Int64.toInt_ofNat_of_lt ha, Int64.toInt_ofNat_of_lt hb,
    Int.ofNat_lt]

theorem product?_ofNat {a b : Nat} (ha : a < 2 ^ 64) (hb : b < 2 ^ 64) :
    product? (.ofNat a) (.ofNat b) = if a * b < 2 ^ 64 then some (.ofNat (a * b)) else none := by
  rw [product?, UInt64.toNat_ofNat_of_lt' ha, UInt64.toNat_ofNat_of_lt' hb, UInt64.ofNat_mul]

/-- Factor by factor, a product is found exactly if a word can hold the whole of it. -/
theorem foldlM_product? {bs : List Nat} (hbs : ∀ b ∈ bs, 0 < b ∧ b < 2 ^ 64) {n : Nat}
    (hn : n < 2 ^ 64) :
    (bs.map UInt64.ofNat).foldlM product? (.ofNat n) =
      if n * bs.prod < 2 ^ 64 then some (.ofNat (n * bs.prod)) else none := by
  induction bs generalizing n with
  | nil =>
    rw [List.prod_nil, Nat.mul_one, if_pos hn]
    rfl
  | cons b bs ih =>
    obtain ⟨⟨hpos, hb⟩, htail⟩ := List.forall_mem_cons.1 hbs
    rw [List.map_cons, List.foldlM_cons, product?_ofNat hn hb, List.prod_cons, ← Nat.mul_assoc]
    by_cases h : n * b < 2 ^ 64
    · rw [if_pos h]
      exact ih htail h
    · have hprod : 0 < bs.prod := List.prod_pos_iff_forall_pos_nat.2 fun c hc => (htail c hc).1
      have hle : n * b ≤ n * b * bs.prod := Nat.le_mul_of_pos_right _ hprod
      rw [if_neg h, if_neg (by omega)]
      rfl

end PaneRunner.Words
