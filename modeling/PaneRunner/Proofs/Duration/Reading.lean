import Mathlib.Data.List.Basic
import PaneRunner.Duration
import PaneRunner.Proofs.Numbers.Words
import PaneRunner.Proofs.Text.Numerals

/-
  Written durations. `Written` is their grammar: a numeral, with a plus sign at most, and a unit.
  Because a numeral ends in a digit, what follows it is the unit, although "s" also ends "ms"
  (`splitUnit?_numeral`); so exactly the texts of the grammar are read, and as what they say
  (`parse?_iff_written`). `readWords` cuts the text at places that are counted in bytes and
  multiplies word by word; it meets no fault and reads the same (`readWords_eq`).
-/
namespace PaneRunner

open Text

namespace Duration

/-- What may follow the numeral, and the unit that it means. -/
inductive Unit.Spelled : Unit → List Char → Prop
  | unwritten : Spelled .secs []
  | millis : Spelled .millis ['m', 's']
  | secs : Spelled .secs ['s']
  | mins : Spelled .mins ['m']
  | hours : Spelled .hours ['h']
  | days : Spelled .days ['d']

/-- A number of units as a span; minutes, hours and days come to less than 2^64 seconds. -/
inductive Unit.Measure : Unit → Nat → Duration → Prop
  | millis (n : Nat) : Measure .millis n (ofMillis n)
  | secs (n : Nat) : Measure .secs n (ofSecs n)
  | mins {n : Nat} (h : n * 60 < 2 ^ 64) : Measure .mins n (ofSecs (n * 60))
  | hours {n : Nat} (h : n * 3600 < 2 ^ 64) : Measure .hours n (ofSecs (n * 3600))
  | days {n : Nat} (h : n * 86400 < 2 ^ 64) : Measure .days n (ofSecs (n * 86400))

/-- A text that says a span: a numeral below 2^64 and a unit. -/
inductive Written : List Char → Duration → Prop
  | intro {numeral unit : List Char} {n : Nat} {u : Unit} {d : Duration}
      (hnumeral : Decimal.Unsigned numeral n) (hn : n < 2 ^ 64) (hunit : u.Spelled unit)
      (hd : u.Measure n d) : Written (numeral ++ unit) d

/-! ## Numeral and unit -/

theorem Unit.times?_eq_some_iff {u : Unit} {n : Nat} {d : Duration} :
    u.times? n = some d ↔ u.Measure n d := by
  constructor
  · intro h
    cases u with
    | millis =>
      cases h
      exact .millis n
    | secs =>
      cases h
      exact .secs n
    | mins =>
      obtain ⟨hlt, h⟩ := Option.ite_none_right_eq_some.1 h
      cases h
      exact .mins hlt
    | hours =>
      obtain ⟨hlt, h⟩ := Option.ite_none_right_eq_some.1 h
      cases h
      exact .hours hlt
    | days =>
      obtain ⟨hlt, h⟩ := Option.ite_none_right_eq_some.1 h
      cases h
      exact .days hlt
  · intro h
    cases h with
    | millis => rfl
    | secs => rfl
    | mins h => exact if_pos h
    | hours h => exact if_pos h
    | days h => exact if_pos h

theorem Unit.ofLetter?_eq_some_iff {c : Char} {u : Unit} :
    ofLetter? c = some u ↔ u.Spelled [c] := by
  constructor
  · intro h
    unfold ofLetter? at h
    split at h
    · cases h
      exact .secs
    · cases h
      exact .mins
    · cases h
      exact .hours
    · cases h
      exact .days
    · cases h
  · intro h
    cases h <;> rfl

theorem Unit.isAlpha_of_spelled {c : Char} {u : Unit} (h : u.Spelled [c]) : c.isAlpha = true := by
  cases h <;> decide

theorem splitUnit?_millis (ds : List Char) :
    splitUnit? (ds ++ ['m', 's']) = some (ds, .millis) := by
  simp [splitUnit?]

theorem splitUnit?_concat {ds : List Char} {c : Char} (h : c = 's' → ds.getLast? ≠ some 'm') :
    splitUnit? (ds ++ [c]) =
      if c.isAlpha then (Unit.ofLetter? c).map fun u => (ds, u) else some (ds ++ [c], .secs) := by
  unfold splitUnit?
  rw [List.reverse_concat]
  split
  · rename_i hnil
    cases hnil
  · rename_i rest hrest
    obtain ⟨rfl, hds⟩ := List.cons_eq_cons.1 hrest
    refine absurd ?_ (h rfl)
    rw [List.getLast?_eq_head?_reverse, hds]
    rfl
  · rename_i c' rest _ hrest
    obtain ⟨rfl, rfl⟩ := List.cons_eq_cons.1 hrest
    rw [List.reverse_reverse]

/-- The text ends in "ms", or in a character that does not make it do so. -/
theorem exists_ending {cs : List Char} (h : cs ≠ []) :
    (∃ ds, cs = ds ++ ['m', 's']) ∨
      ∃ ds c, cs = ds ++ [c] ∧ (c = 's' → ds.getLast? ≠ some 'm') := by
  obtain ⟨ds, c, rfl⟩ := (List.eq_nil_or_concat' cs).resolve_left h
  by_cases hm : c = 's' ∧ ds.getLast? = some 'm'
  · obtain ⟨rfl, hlast⟩ := hm
    obtain ⟨front, rfl⟩ := List.getLast?_eq_some_iff.1 hlast
    exact Or.inl ⟨front, by simp⟩
  · exact Or.inr ⟨ds, c, rfl, not_and.1 hm⟩

theorem exists_spelled {cs ds : List Char} {u : Unit} (h : splitUnit? cs = some (ds, u)) :
    ∃ unit, cs = ds ++ unit ∧ u.Spelled unit := by
  have hne : cs ≠ [] := by
    rintro rfl
    cases h
  rcases exists_ending hne with ⟨front, rfl⟩ | ⟨front, c, rfl, hc⟩
  · rw [splitUnit?_millis] at h
    cases h
    exact ⟨_, rfl, .millis⟩
  · rw [splitUnit?_concat hc] at h
    split at h
    · obtain ⟨u', hu, he⟩ := Option.map_eq_some_iff.1 h
      cases he
      exact ⟨_, rfl, Unit.ofLetter?_eq_some_iff.1 hu⟩
    · cases h
      exact ⟨[], (List.append_nil _).symm, .unwritten⟩

theorem exists_digit {numeral : List Char} {n : Nat} (h : Decimal.Unsigned numeral n) :
    ∃ front c, numeral = front ++ [c] ∧ c.isDigit = true := by
  cases h with
  | bare hds => exact Decimal.exists_concat_of_isNumeral hds
  | plus hds =>
    obtain ⟨front, c, rfl, hc⟩ := Decimal.exists_concat_of_isNumeral hds
    exact ⟨'+' :: front, c, rfl, hc⟩

theorem not_isAlpha_of_isDigit {c : Char} (h : c.isDigit = true) : c.isAlpha = false := by
  have hc := Decimal.toNat_of_isDigit h
  unfold Char.isAlpha Char.isUpper Char.isLower
  simp [UInt32.le_iff_toNat_le]
  omega

theorem utf8Size_of_isAlpha {c : Char} (h : c.isAlpha = true) : c.utf8Size = 1 := by
  rw [Char.utf8Size_eq_one_iff, UInt32.le_iff_toNat_le]
  unfold Char.isAlpha Char.isUpper Char.isLower at h
  simp [UInt32.le_iff_toNat_le] at h ⊢
  omega

/-- What follows a numeral is taken for the unit. -/
theorem splitUnit?_numeral {numeral unit : List Char} {n : Nat} {u : Unit}
    (hn : Decimal.Unsigned numeral n) (hu : u.Spelled unit) :
    splitUnit? (numeral ++ unit) = some (numeral, u) := by
  obtain ⟨front, c, rfl, hc⟩ := exists_digit hn
  have hletter {l : Char} (hl : u.Spelled [l]) :
      splitUnit? (front ++ [c] ++ [l]) = some (front ++ [c], u) := by
    rw [splitUnit?_concat, if_pos (Unit.isAlpha_of_spelled hl), Unit.ofLetter?_eq_some_iff.2 hl]
    · rfl
    · rintro -
      rw [List.getLast?_concat]
      rintro he
      cases he
      cases hc
  cases hu with
  | unwritten =>
    rw [List.append_nil, splitUnit?_concat, if_neg]
    · rw [not_isAlpha_of_isDigit hc]
      decide
    · rintro rfl
      cases hc
  | millis => exact splitUnit?_millis _
  | secs => exact hletter .secs
  | mins => exact hletter .mins
  | hours => exact hletter .hours
  | days => exact hletter .days

/-! ## Reading -/

theorem parse?_eq (s : String) : parse? s = (splitUnit? (lower (trim s)).toList).bind fun p =>
    (Decimal.unsigned? (2 ^ 64) p.1).bind p.2.times? := rfl

theorem parse?_iff_written {s : String} {d : Duration} :
    parse? s = some d ↔ Written (lower (trim s)).toList d := by
  rw [parse?_eq]
  generalize (lower (trim s)).toList = cs
  constructor
  · intro h
    obtain ⟨⟨ds, u⟩, hsplit, h⟩ := Option.bind_eq_some_iff.1 h
    obtain ⟨n, hn, hd⟩ := Option.bind_eq_some_iff.1 h
    obtain ⟨unit, rfl, hunit⟩ := exists_spelled hsplit
    obtain ⟨hnumeral, hlt⟩ := Decimal.unsigned?_eq_some_iff.1 hn
    exact .intro hnumeral hlt hunit (Unit.times?_eq_some_iff.1 hd)
  · rintro ⟨hnumeral, hlt, hunit, hd⟩
    rw [splitUnit?_numeral hnumeral hunit, Option.bind_some]
    dsimp only
    rw [Decimal.unsigned?_eq_some_iff.2 ⟨hnumeral, hlt⟩]
    exact Unit.times?_eq_some_iff.2 hd

end Duration

/-! ## Bytes and words -/

open Words (Fault)

namespace Text

/-- The bytes that characters take. -/
def byteLength (cs : List Char) : Nat := (cs.map Char.utf8Size).sum

/-- A text cut at a place that is counted in bytes; there is no place inside a character. -/
def cutBytes : Nat → List Char → Except Fault (List Char × List Char)
  | 0, cs => .ok ([], cs)
  | _ + 1, [] => .error .noPlace
  | n + 1, c :: cs =>
    if c.utf8Size ≤ n + 1 then (cutBytes (n + 1 - c.utf8Size) cs).map fun (l, r) => (c :: l, r)
    else .error .noPlace

theorem byteLength_append (l r : List Char) :
    byteLength (l ++ r) = byteLength l + byteLength r := by
  simp [byteLength]

/-- A text can be cut between its characters. -/
theorem cutBytes_append (l r : List Char) : cutBytes (byteLength l) (l ++ r) = .ok (l, r) := by
  induction l with
  | nil => simp [byteLength, cutBytes]
  | cons c l ih =>
    have hpos := c.utf8Size_pos
    have hlength : byteLength (c :: l) = c.utf8Size + byteLength l := by simp [byteLength]
    obtain ⟨n, hn⟩ : ∃ n, c.utf8Size + byteLength l = n + 1 :=
      ⟨c.utf8Size - 1 + byteLength l, by omega⟩
    have hrest : n + 1 - c.utf8Size = byteLength l := by omega
    rw [hlength, hn, List.cons_append, cutBytes, if_pos (by omega), hrest, ih]
    rfl

end Text

namespace Duration

/-- The numeral and the letters of the unit. A last letter is cut off one byte before the end. -/
def splitBytes (cs : List Char) : Except Fault (Option (List Char × List Char)) :=
  match dropStart? ['s', 'm'] cs.reverse with
  | some numeral => .ok (some (numeral.reverse, ['m', 's']))
  | none =>
    match cs.getLast? with
    | none => .ok none
    | some c =>
      if c.isAlpha then
        match byteLength cs with
        | 0 => .error .overflow
        | n + 1 => (cutBytes n cs).map some
      else .ok (some (cs, ['s']))

/-- A number of units whose seconds are found factor by factor. -/
def wordSecs? (n : UInt64) (factors : List UInt64) : Option Duration :=
  (factors.foldlM Words.product? n).map fun secs => ofSecs secs.toNat

/-- A number of the units that letters spell. -/
def wordTimes? (n : UInt64) : List Char → Option Duration
  | ['m', 's'] => some (ofMillis n.toNat)
  | ['s'] => some (ofSecs n.toNat)
  | ['m'] => wordSecs? n [60]
  | ['h'] => wordSecs? n [60, 60]
  | ['d'] => wordSecs? n [24, 60, 60]
  | _ => none

/-- A written duration, read with places in bytes and numbers in words. -/
def readWords (s : String) : Except Fault (Option Duration) := do
  let some (numeral, unit) ← splitBytes (lower (trim s)).toList | return none
  let some n := Decimal.unsigned? (2 ^ 64) numeral | return none
  return wordTimes? (.ofNat n) unit

theorem splitBytes_millis (ds : List Char) :
    splitBytes (ds ++ ['m', 's']) = .ok (some (ds, ['m', 's'])) := by
  simp [splitBytes, dropStart?]

/-- A letter takes one byte, so a place stands before it. -/
theorem splitBytes_concat {ds : List Char} {c : Char} (h : c = 's' → ds.getLast? ≠ some 'm') :
    splitBytes (ds ++ [c]) = .ok (some (if c.isAlpha then (ds, [c]) else (ds ++ [c], ['s']))) := by
  have hend : ¬ ['s', 'm'] <+: (ds ++ [c]).reverse := by
    rw [List.reverse_concat, List.cons_prefix_cons]
    rintro ⟨hc, hm⟩
    refine h hc.symm ?_
    rw [List.getLast?_eq_head?_reverse]
    exact List.head?_eq_some_iff.2 ((List.cons_prefix_iff.1 hm).imp fun _ h => h.1)
  unfold splitBytes
  rw [dropStart?_eq_none hend, List.getLast?_concat]
  dsimp only
  by_cases hc : c.isAlpha = true
  · have hlength : byteLength (ds ++ [c]) = byteLength ds + 1 := by
      rw [byteLength_append, byteLength, byteLength, List.map_singleton, List.sum_singleton,
        utf8Size_of_isAlpha hc]
    rw [if_pos hc, if_pos hc, hlength]
    dsimp only
    rw [cutBytes_append]
    rfl
  · rw [if_neg hc, if_neg hc]

theorem wordSecs?_ofNat {n : Nat} (hn : n < 2 ^ 64) {bs : List Nat}
    (hbs : ∀ b ∈ bs, 0 < b ∧ b < 2 ^ 64) {k : Nat} (hk : bs.prod = k) :
    wordSecs? (.ofNat n) (bs.map UInt64.ofNat) =
      if n * k < 2 ^ 64 then some (ofSecs (n * k)) else none := by
  rw [wordSecs?, Words.foldlM_product? hbs hn, hk]
  by_cases h : n * k < 2 ^ 64
  · rw [if_pos h, if_pos h, Option.map_some, UInt64.toNat_ofNat_of_lt' h]
  · rw [if_neg h, if_neg h]
    rfl

theorem wordTimes?_millis {n : Nat} (hn : n < 2 ^ 64) :
    wordTimes? (.ofNat n) ['m', 's'] = Unit.millis.times? n := by
  rw [wordTimes?, UInt64.toNat_ofNat_of_lt' hn]
  rfl

theorem wordTimes?_letter {n : Nat} (hn : n < 2 ^ 64) (c : Char) :
    wordTimes? (.ofNat n) [c] = (Unit.ofLetter? c).bind fun u => u.times? n := by
  unfold Unit.ofLetter?
  split
  · rw [wordTimes?, UInt64.toNat_ofNat_of_lt' hn]
    rfl
  · rw [Option.bind_some]
    exact wordSecs?_ofNat hn (by decide) (rfl : [60].prod = 60)
  · rw [Option.bind_some]
    exact wordSecs?_ofNat hn (by decide) (rfl : [60, 60].prod = 3600)
  · rw [Option.bind_some]
    exact wordSecs?_ofNat hn (by decide) (rfl : [24, 60, 60].prod = 86400)
  · rename_i hs hm hh hd
    unfold wordTimes?
    split <;> simp_all

theorem readWords_eq (s : String) : readWords s = .ok (parse? s) := by
  rw [parse?_eq]
  unfold readWords
  generalize (lower (trim s)).toList = cs
  by_cases hne : cs = []
  · subst hne
    rfl
  rcases exists_ending hne with ⟨numeral, rfl⟩ | ⟨ds, c, rfl, hc⟩
  · rw [splitBytes_millis, splitUnit?_millis, Words.ok_bind, Option.bind_some]
    dsimp only
    rcases hn : Decimal.unsigned? (2 ^ 64) numeral with - | n
    · rfl
    · exact congrArg Except.ok (wordTimes?_millis (Decimal.lt_of_unsigned? hn))
  · rw [splitBytes_concat hc, splitUnit?_concat hc, Words.ok_bind]
    by_cases hletter : c.isAlpha = true
    · rw [if_pos hletter, if_pos hletter, Option.bind_map]
      dsimp only [Function.comp_def]
      rcases hn : Decimal.unsigned? (2 ^ 64) ds with - | n
      · exact congrArg Except.ok (Option.bind_fun_none _).symm
      · exact congrArg Except.ok (wordTimes?_letter (Decimal.lt_of_unsigned? hn) c)
    · rw [if_neg hletter, if_neg hletter, Option.bind_some]
      dsimp only
      rcases hn : Decimal.unsigned? (2 ^ 64) (ds ++ [c]) with - | n
      · rfl
      · exact congrArg Except.ok (wordTimes?_letter (Decimal.lt_of_unsigned? hn) 's')

/-- The texts of the grammar are read, as what they say, and no others; on no text is a place inside
a character met, or a word that overflows. -/
theorem parse?_grammar (s : String) :
    readWords s = .ok (parse? s) ∧
      (∀ d, parse? s = some d ↔ Written (lower (trim s)).toList d) ∧
      (parse? s = none ↔ ∀ d, ¬ Written (lower (trim s)).toList d) := by
  refine ⟨readWords_eq s, fun d => parse?_iff_written, ?_⟩
  rw [Option.eq_none_iff_forall_ne_some]
  exact forall_congr' fun d => not_congr parse?_iff_written

example : parse? " +5M\t" = some (ofSecs 300) := by decide

end Duration

end PaneRunner
