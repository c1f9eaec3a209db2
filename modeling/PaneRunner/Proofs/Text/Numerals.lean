import PaneRunner.Text.Hex
import PaneRunner.Text.Blank
import PaneRunner.Proofs.Text.Search

/-
  Numerals read back. `signed?_ofInt`: the decimal text of a number in range is read as that number;
  `ne_of_signed?_append`: a numeral that was cut short is never read as the number it was cut
  from. `padded_append_inj`: zeros in front do not hide the number, and a character that is no digit
  ends it. `unsigned?_eq_some_iff` and `signed?_eq_some_iff`: what is read at all. `byte?_byte`: two
  hexadecimal digits are read as their byte.
-/
namespace PaneRunner.Text.Decimal

/-! ## Digits -/

theorem toNat_digit : ∀ n < 10, (digit n).toNat = 48 + n := by decide

theorem isDigit_digit : ∀ n < 10, (digit n).isDigit = true := by decide

theorem toNat_of_isDigit {c : Char} (h : c.isDigit = true) : 48 ≤ c.toNat ∧ c.toNat ≤ 57 := by
  simpa [Char.isDigit, UInt32.le_iff_toNat_le] using h

theorem digits_step {n : Nat} (h : 10 ≤ n) : digits n = digits (n / 10) ++ [digit (n % 10)] := by
  rw [digits, if_neg (by omega)]

theorem digits_small {n : Nat} (h : n < 10) : digits n = [digit n] := by
  rw [digits, if_pos h]

theorem isDigit_of_mem_digits {n : Nat} {c : Char} (h : c ∈ digits n) : c.isDigit = true := by
  induction n using Nat.strongRecOn with
  | ind n ih =>
    by_cases hn : n < 10
    · rw [digits_small hn] at h
      rw [List.mem_singleton.1 h]
      exact isDigit_digit n hn
    · rw [digits_step (by omega)] at h
      rcases List.mem_append.1 h with h | h
      · exact ih _ (by omega) h
      · rw [List.mem_singleton.1 h]
        exact isDigit_digit _ (by omega)

theorem digits_ne_nil (n : Nat) : digits n ≠ [] := by
  by_cases hn : n < 10
  · rw [digits_small hn]
    exact List.cons_ne_nil _ _
  · rw [digits_step (by omega)]
    simp

theorem isNumeral_digits (n : Nat) : isNumeral (digits n) = true := by
  rw [isNumeral, Bool.and_eq_true, List.all_eq_true]
  exact ⟨by simp [digits_ne_nil], fun c hc => isDigit_of_mem_digits hc⟩

theorem isDigit_of_isNumeral {ds : List Char} (h : isNumeral ds = true) {c : Char} (hc : c ∈ ds) :
    c.isDigit = true := by
  rw [isNumeral, Bool.and_eq_true, List.all_eq_true] at h
  exact h.2 c hc

/-- A numeral ends in a digit. -/
theorem exists_concat_of_isNumeral {ds : List Char} (h : isNumeral ds = true) :
    ∃ front c, ds = front ++ [c] ∧ c.isDigit = true := by
  rcases ds.eq_nil_or_concat with rfl | ⟨front, c, rfl⟩
  · cases h
  · rw [List.concat_eq_append] at h ⊢
    exact ⟨front, c, rfl, isDigit_of_isNumeral h (by simp)⟩

/-! ## Values -/

theorem foldl_value (cs : List Char) (v : Nat) :
    cs.foldl (fun v c => 10 * v + (c.toNat - 48)) v = v * Nat.pow 10 cs.length + value cs := by
  change _ = v * 10 ^ cs.length + value cs
  induction cs generalizing v with
  | nil => simp [value]
  | cons c cs ih =>
    rw [value, List.foldl_cons, List.foldl_cons, ih, ih (10 * 0 + (c.toNat - 48)),
      List.length_cons, Nat.pow_succ]
    simp only [Nat.mul_zero, Nat.zero_add, Nat.add_mul]
    rw [Nat.mul_comm 10 v, Nat.mul_assoc, Nat.mul_comm 10 (10 ^ cs.length), Nat.add_assoc]

theorem value_append (cs ds : List Char) :
    value (cs ++ ds) = value cs * Nat.pow 10 ds.length + value ds := by
  rw [value, List.foldl_append, foldl_value]
  rfl

theorem value_digits (n : Nat) : value (digits n) = n := by
  induction n using Nat.strongRecOn with
  | ind n ih =>
    by_cases hn : n < 10
    · rw [digits_small hn]
      simp [value, toNat_digit n hn]
    · rw [digits_step (by omega), value_append, ih _ (by omega)]
      simp only [value, List.foldl_cons, List.foldl_nil, toNat_digit (n % 10) (by omega),
        List.length_singleton, Nat.pow_eq, Nat.pow_one]
      omega

/-- A numeral that was cut short has another value. -/
theorem value_ne_of_append {n : Nat} {q r : List Char} (h : digits n = q ++ r) (hq : q ≠ [])
    (hr : r ≠ []) : value q ≠ n := by
  intro hv
  have hqlen := List.length_pos_iff.2 hq
  have hrlen := List.length_pos_iff.2 hr
  have hn : n = n * 10 ^ r.length + value r := by
    have hd := value_digits n
    rw [h, value_append, hv] at hd
    exact hd.symm
  have hpow : 10 ≤ 10 ^ r.length := Nat.le_self_pow (by omega) 10
  have hle := Nat.mul_le_mul_left n hpow
  have hzero : n = 0 := by omega
  -- the only numeral of zero has a single digit
  rw [hzero, digits_small (by decide)] at h
  have hl := congrArg List.length h
  rw [List.length_singleton, List.length_append] at hl
  omega

/-! ## Zeros in front -/

theorem value_zeros (k : Nat) (cs : List Char) : value (List.replicate k '0' ++ cs) = value cs := by
  induction k with
  | zero => rfl
  | succ k ih =>
    rw [List.replicate_succ, List.cons_append]
    exact ih

theorem toList_ofNat (n : Nat) : (ofNat n).toList = digits n := by
  rw [ofNat, String.toList_ofList]

theorem isDigit_of_mem_padded {width n : Nat} {c : Char} (h : c ∈ (padded width n).toList) :
    c.isDigit = true := by
  rw [padded, String.toList_ofList] at h
  rcases List.mem_append.1 h with h | h
  · rw [List.eq_of_mem_replicate h]
    decide
  · exact isDigit_of_mem_digits h

theorem value_padded (width n : Nat) : value (padded width n).toList = n := by
  rw [padded, String.toList_ofList, value_zeros, value_digits]

theorem toList_padded_zero (n : Nat) : (padded 0 n).toList = digits n := by
  rw [padded, String.toList_ofList, Nat.zero_sub, List.replicate_zero, List.nil_append]

theorem padded_inj {width m n : Nat} : padded width m = padded width n ↔ m = n := by
  refine ⟨fun h => ?_, fun h => h ▸ rfl⟩
  rw [← value_padded width m, h, value_padded]

/-- A number ends where a character follows that is no digit. -/
theorem padded_append_inj {c : Char} (hc : c.isDigit = false) {width m n : Nat} {r r' : List Char} :
    (padded width m).toList ++ c :: r = (padded width n).toList ++ c :: r' ↔ m = n ∧ r = r' := by
  have hnot (k : Nat) : c ∉ (padded width k).toList := by
    intro h
    rw [isDigit_of_mem_padded h] at hc
    cases hc
  rw [append_cons_inj (hnot m) (hnot n), String.toList_inj, padded_inj]

/-! ## Signed numbers -/

theorem toList_ofInt_ofNat (n : Nat) : (ofInt (.ofNat n)).toList = digits n := by
  rw [ofInt, ofNat, String.toList_ofList]

theorem toList_ofInt_negSucc (n : Nat) : (ofInt (.negSucc n)).toList = '-' :: digits (n + 1) := by
  simp [ofInt, ofNat, String.toList_append]

theorem unsigned?_numeral {bound : Nat} {cs : List Char} (h : isNumeral cs = true) :
    unsigned? bound cs = if value cs < bound then some (value cs) else none := by
  unfold unsigned?
  split
  · simp [isNumeral] at h
  · simp only [h, Bool.true_and, decide_eq_true_eq]

theorem signed?_numeral {bound : Nat} {cs : List Char} (h : isNumeral cs = true) :
    signed? bound cs = if value cs < bound then some (value cs : Int) else none := by
  cases cs with
  | nil => cases h
  | cons c cs =>
    have hc : c ≠ '-' := by
      rintro rfl
      simp [isNumeral] at h
    rw [signed?.eq_2 _ _ (by simpa using hc), unsigned?_numeral h]
    split <;> rfl

theorem signed?_minus {bound : Nat} {cs : List Char} :
    signed? bound ('-' :: cs) =
      if isNumeral cs = true ∧ value cs ≤ bound then some (-(value cs : Int)) else none := by
  simp [signed?]

/-- The decimal text of a number in range is read as that number. -/
theorem signed?_ofInt {bound : Nat} {i : Int} (h : -(bound : Int) ≤ i) (h' : i < bound) :
    signed? bound (ofInt i).toList = some i := by
  cases i with
  | ofNat n =>
    have hn : n < bound := Int.ofNat_lt.1 h'
    rw [toList_ofInt_ofNat, signed?_numeral (isNumeral_digits n), value_digits, if_pos hn]
    rfl
  | negSucc n =>
    rw [toList_ofInt_negSucc, signed?_minus, value_digits, if_pos ⟨isNumeral_digits _, by omega⟩]
    rfl

/-- A numeral that was cut short is never read as the number it was cut from. -/
theorem ne_of_signed?_append {bound : Nat} {i j : Int} {q r : List Char}
    (h : (ofInt i).toList = q ++ r) (hr : r ≠ []) (hq : signed? bound q = some j) : j ≠ i := by
  cases i with
  | ofNat n =>
    rw [toList_ofInt_ofNat] at h
    have hne : q ≠ [] := by
      rintro rfl
      cases hq
    have hnum : isNumeral q = true := by
      rw [isNumeral, Bool.and_eq_true, List.all_eq_true]
      exact ⟨by simpa using hne,
        fun c hc => isDigit_of_mem_digits (h ▸ List.mem_append_left _ hc)⟩
    rw [signed?_numeral hnum] at hq
    have hv := value_ne_of_append h hne hr
    split at hq
    · cases hq
      intro e
      exact hv (Int.ofNat.inj e)
    · cases hq
  | negSucc n =>
    rw [toList_ofInt_negSucc] at h
    cases q with
    | nil => cases hq
    | cons c q =>
      rw [List.cons_append] at h
      obtain ⟨rfl, htail⟩ := List.cons_eq_cons.1 h
      rw [signed?_minus] at hq
      split at hq
      · rename_i hnum
        have hne : q ≠ [] := by
          rintro rfl
          exact absurd hnum.1 (by decide)
        have hv := value_ne_of_append htail hne hr
        cases hq
        intro e
        rw [Int.negSucc_eq] at e
        omega
      · cases hq

theorem lt_of_unsigned? {bound n : Nat} {cs : List Char} (h : unsigned? bound cs = some n) :
    n < bound := by
  unfold unsigned? at h
  dsimp only at h
  obtain ⟨hlt, h⟩ := Option.ite_none_right_eq_some.1 h
  cases h
  exact of_decide_eq_true (Bool.and_eq_true_iff.1 hlt).2

/-- A number that is read is in range. -/
theorem range_of_signed? {bound : Nat} (hb : 0 < bound) {cs : List Char} {i : Int}
    (h : signed? bound cs = some i) : -(bound : Int) ≤ i ∧ i < bound := by
  unfold signed? at h
  split at h
  · obtain ⟨hle, h⟩ := Option.ite_none_right_eq_some.1 h
    cases h
    have hle := of_decide_eq_true (Bool.and_eq_true_iff.1 hle).2
    omega
  · obtain ⟨n, hn, h⟩ := Option.map_eq_some_iff.1 h
    have hlt := lt_of_unsigned? hn
    rw [Int.ofNat_eq_natCast] at h
    omega

/-- A numeral without a sign or with a plus sign, and its value. -/
inductive Unsigned : List Char → Nat → Prop where
  | bare {ds : List Char} (h : isNumeral ds = true) : Unsigned ds (value ds)
  | plus {ds : List Char} (h : isNumeral ds = true) : Unsigned ('+' :: ds) (value ds)

/-- A numeral without a sign or with one, and its value. -/
inductive Signed : List Char → Int → Prop where
  | unsigned {cs : List Char} {n : Nat} (h : Unsigned cs n) : Signed cs n
  | minus {ds : List Char} (h : isNumeral ds = true) : Signed ('-' :: ds) (-(value ds : Int))

/-- A sign is no digit. -/
theorem isNumeral_cons_eq_false {c : Char} (h : c.isDigit = false) (cs : List Char) :
    isNumeral (c :: cs) = false := by
  simp [isNumeral, h]

theorem unsigned?_plus {bound : Nat} {cs : List Char} (h : isNumeral cs = true) :
    unsigned? bound ('+' :: cs) = if value cs < bound then some (value cs) else none := by
  simp only [unsigned?, h, Bool.true_and, decide_eq_true_eq]

/-- What is read are the numerals below the bound. -/
theorem unsigned?_eq_some_iff {bound n : Nat} {cs : List Char} :
    unsigned? bound cs = some n ↔ Unsigned cs n ∧ n < bound := by
  constructor
  · intro h
    refine ⟨?_, lt_of_unsigned? h⟩
    unfold unsigned? at h
    dsimp only at h
    obtain ⟨hread, h⟩ := Option.ite_none_right_eq_some.1 h
    cases h
    have hnum := (Bool.and_eq_true_iff.1 hread).1
    split at hnum
    · exact .plus hnum
    · exact .bare hnum
  · rintro ⟨h, hn⟩
    cases h with
    | bare h => rw [unsigned?_numeral h, if_pos hn]
    | plus h => rw [unsigned?_plus h, if_pos hn]

theorem signed?_of_unsigned {bound n : Nat} {cs : List Char} (h : Unsigned cs n) :
    signed? bound cs = (unsigned? bound cs).map Int.ofNat := by
  refine signed?.eq_2 bound cs ?_
  rintro ds rfl
  cases h with
  | bare h =>
    rw [isNumeral_cons_eq_false (by decide)] at h
    cases h

/-- What is read are the numerals from the bound below zero to below the bound. -/
theorem signed?_eq_some_iff {bound : Nat} (hb : 0 < bound) {cs : List Char} {i : Int} :
    signed? bound cs = some i ↔ Signed cs i ∧ -(bound : Int) ≤ i ∧ i < bound := by
  constructor
  · intro h
    refine ⟨?_, range_of_signed? hb h⟩
    unfold signed? at h
    split at h
    · obtain ⟨hread, h⟩ := Option.ite_none_right_eq_some.1 h
      cases h
      exact .minus (Bool.and_eq_true_iff.1 hread).1
    · obtain ⟨n, hn, rfl⟩ := Option.map_eq_some_iff.1 h
      exact .unsigned (unsigned?_eq_some_iff.1 hn).1
  · rintro ⟨h, hlow, hhigh⟩
    cases h with
    | unsigned h =>
      rw [signed?_of_unsigned h, unsigned?_eq_some_iff.2 ⟨h, Int.ofNat_lt.1 hhigh⟩]
      rfl
    | minus h => rw [signed?_minus, if_pos ⟨h, by omega⟩]

/-- A number is written in digits, after a minus sign at most. -/
theorem mem_ofInt {i : Int} {c : Char} (h : c ∈ (ofInt i).toList) :
    c.isDigit = true ∨ c = '-' := by
  cases i with
  | ofNat n =>
    rw [toList_ofInt_ofNat] at h
    exact Or.inl (isDigit_of_mem_digits h)
  | negSucc n =>
    rw [toList_ofInt_negSucc] at h
    rcases List.mem_cons.1 h with h | h
    · exact Or.inr h
    · exact Or.inl (isDigit_of_mem_digits h)

/-- The code of every character of a number. -/
theorem toNat_of_mem_ofInt {i : Int} {c : Char} (h : c ∈ (ofInt i).toList) :
    45 ≤ c.toNat ∧ c.toNat ≤ 57 := by
  rcases mem_ofInt h with h | rfl
  · have := toNat_of_isDigit h
    omega
  · decide

end PaneRunner.Text.Decimal

namespace PaneRunner.Text.Hex

theorem digit?_digit : ∀ n < 16, digit? (digit n) = some n := by decide

theorem digit_ne_plus : ∀ n < 16, digit n ≠ '+' := by decide

/-- A byte is written as two hexadecimal digits. -/
theorem toList_byte (b : UInt8) :
    (byte b).toList.length = 2 ∧ ∀ c ∈ (byte b).toList, (digit? c).isSome := by
  have hb := b.toNat_lt
  rw [byte, String.toList_ofList]
  refine ⟨rfl, fun c hc => ?_⟩
  simp only [List.mem_cons, List.not_mem_nil, or_false] at hc
  rcases hc with rfl | rfl
  · rw [digit?_digit _ (by omega)]
    rfl
  · rw [digit?_digit _ (by omega)]
    rfl

/-- Two hexadecimal digits are read as their byte. -/
theorem byte?_byte (b : UInt8) : byte? (byte b) = some b := by
  have hb := b.toNat_lt
  have hhigh : b.toNat / 16 < 16 := by omega
  have hlow : b.toNat % 16 < 16 := by omega
  have hv : value? [digit (b.toNat / 16), digit (b.toNat % 16)] = some b.toNat := by
    simp only [value?, List.foldlM_cons, List.foldlM_nil, digit?_digit _ hhigh,
      digit?_digit _ hlow, Option.map_some, Option.bind_eq_bind, Option.bind_some]
    show some (16 * (16 * 0 + b.toNat / 16) + b.toNat % 16) = some b.toNat
    congr 1
    omega
  unfold byte? byte
  rw [String.toList_ofList]
  split
  · rename_i n hn
    exact absurd (List.cons.inj hn).1 (digit_ne_plus _ hhigh)
  · simp only [hv]
    rw [if_pos hb]
    simp

end PaneRunner.Text.Hex
