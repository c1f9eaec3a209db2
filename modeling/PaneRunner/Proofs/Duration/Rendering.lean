import PaneRunner.Proofs.Duration.Reading

/-
  Rendered durations. Below one second, or without a fraction, a number of units is rendered, and it
  is read back (`written_render`, `parse?_render_units`); other spans are rendered with a point
  (`toList_render_places`), which no written duration holds, so they are not read at all
  (`parse?_render_places`). Hence the text determines the whole milliseconds (`render_eq_iff`): two
  texts that are read say their spans, and two texts with a point agree on either side of it.
-/
namespace PaneRunner

namespace Text

/-- A character that is neither blank nor a capital letter. -/
def Plain (c : Char) : Prop := isBlankChar c = false ∧ c.toLower = c

instance : DecidablePred Plain := fun _ => instDecidableAnd

theorem plain_of_isDigit {c : Char} (h : c.isDigit = true) : Plain c := by
  have hc := Decimal.toNat_of_isDigit h
  constructor
  · simp [isBlankChar]
    omega
  · unfold Char.toLower
    rw [dif_neg]
    rintro ⟨hle, -⟩
    have hle : 65 ≤ c.toNat := UInt32.le_iff_toNat_le.1 hle
    omega

theorem trimStart_of_plain {cs : List Char} (h : ∀ c ∈ cs, Plain c) : trimStart cs = cs := by
  cases cs with
  | nil => rfl
  | cons c cs => exact List.dropWhile_cons_of_neg (by simp [(h c List.mem_cons_self).1])

theorem trimEnd_of_plain {cs : List Char} (h : ∀ c ∈ cs, Plain c) : trimEnd cs = cs := by
  have hrev : trimStart cs.reverse = cs.reverse :=
    trimStart_of_plain fun c hc => h c (List.mem_reverse.1 hc)
  rw [trimEnd, ← trimStart, hrev, List.reverse_reverse]

theorem lower_trim_of_plain {s : String} (h : ∀ c ∈ s.toList, Plain c) : lower (trim s) = s := by
  rw [trim, trimStart_of_plain h, trimEnd_of_plain h, String.ofList_toList, lower,
    List.map_congr_left fun c hc => (h c hc).2, List.map_id', String.ofList_toList]

end Text

open Text

namespace Duration

theorem secs_eq (d : Duration) : d.secs = d.millis / 1000 := by
  rw [secs, millis, Nat.div_div_eq_div_mul]

theorem subsecMillis_eq (d : Duration) : d.subsecMillis = d.millis % 1000 := by
  unfold subsecMillis millis
  omega

/-! ## Characters -/

theorem subset_of_spelled {u : Unit} {unit : List Char} (h : u.Spelled unit) :
    unit ⊆ ['m', 's', 'h', 'd'] := by
  cases h <;> decide

theorem mem_of_unsigned {cs : List Char} {n : Nat} (h : Decimal.Unsigned cs n) {c : Char}
    (hc : c ∈ cs) : c.isDigit = true ∨ c = '+' := by
  cases h with
  | bare hds => exact Or.inl (Decimal.isDigit_of_isNumeral hds hc)
  | plus hds =>
    rcases List.mem_cons.1 hc with rfl | hc
    · exact Or.inr rfl
    · exact Or.inl (Decimal.isDigit_of_isNumeral hds hc)

theorem mem_of_written {cs : List Char} {d : Duration} (h : Written cs d) {c : Char}
    (hc : c ∈ cs) : c.isDigit = true ∨ c ∈ ['+', 'm', 's', 'h', 'd'] := by
  obtain ⟨hnumeral, -, hunit, -⟩ := h
  rcases List.mem_append.1 hc with hc | hc
  · exact (mem_of_unsigned hnumeral hc).imp_right fun h => List.mem_cons.2 (Or.inl h)
  · exact Or.inr (List.mem_cons_of_mem _ (subset_of_spelled hunit hc))

theorem plain_of_written {cs : List Char} {d : Duration} (h : Written cs d) :
    ∀ c ∈ cs, Plain c := by
  intro c hc
  rcases mem_of_written h hc with hdigit | hmem
  · exact plain_of_isDigit hdigit
  · simp only [List.mem_cons, List.not_mem_nil, or_false] at hmem
    rcases hmem with rfl | rfl | rfl | rfl | rfl <;> decide

/-- A written duration holds no point. -/
theorem not_written_of_mem {cs : List Char} (h : '.' ∈ cs) (d : Duration) : ¬ Written cs d := by
  intro hd
  exact absurd (mem_of_written hd h) (by decide)

theorem parse?_of_written {s : String} {d : Duration} (h : Written s.toList d) :
    parse? s = some d := by
  rw [parse?_iff_written, lower_trim_of_plain (plain_of_written h)]
  exact h

/-! ## Units -/

theorem written_ofNat {n : Nat} {u : Unit} {unit : String} {d : Duration} (hn : n < 2 ^ 64)
    (hunit : u.Spelled unit.toList) (hd : u.Measure n d) :
    Written (Decimal.ofNat n ++ unit).toList d := by
  have hnumeral := Decimal.Unsigned.bare (Decimal.isNumeral_digits n)
  rw [Decimal.value_digits] at hnumeral
  rw [String.toList_append, Decimal.toList_ofNat]
  exact .intro hnumeral hn hunit hd

theorem written_render {d : Duration} (h : d.secs = 0 ∨ d.subsecMillis = 0)
    (hs : d.secs < 2 ^ 64) : Written d.render.toList (ofMillis d.millis) := by
  rw [secs_eq, subsecMillis_eq] at h
  rw [secs_eq] at hs
  rw [render, secs_eq, subsecMillis_eq]
  by_cases h0 : d.millis / 1000 = 0
  · have hmillis : d.millis % 1000 = d.millis := by omega
    rw [if_pos h0, hmillis]
    exact written_ofNat (by omega) .millis (.millis _)
  have hms : d.millis % 1000 = 0 := h.resolve_left h0
  have hsecs : ofMillis d.millis = ofSecs (d.millis / 1000) := by
    rw [ofMillis, ofSecs, Duration.mk.injEq]
    omega
  rw [if_neg h0, if_pos hms, hsecs]
  generalize d.millis / 1000 = secs at hs
  by_cases hhours : secs % 3600 = 0
  · have hprod : secs / 3600 * 3600 = secs := by omega
    have hmeasure := Unit.Measure.hours (n := secs / 3600) (by omega)
    rw [hprod] at hmeasure
    rw [if_pos hhours]
    exact written_ofNat (by omega) .hours hmeasure
  by_cases hmins : secs % 60 = 0
  · have hprod : secs / 60 * 60 = secs := by omega
    have hmeasure := Unit.Measure.mins (n := secs / 60) (by omega)
    rw [hprod] at hmeasure
    rw [if_neg hhours, if_pos hmins]
    exact written_ofNat (by omega) .mins hmeasure
  · rw [if_neg hhours, if_neg hmins]
    exact written_ofNat hs .secs (.secs secs)

theorem parse?_render_units {d : Duration} (h : d.secs = 0 ∨ d.subsecMillis = 0)
    (hs : d.secs < 2 ^ 64) : parse? d.render = some (ofMillis d.millis) :=
  parse?_of_written (written_render h hs)

/-! ## Places -/

theorem toList_render_places {d : Duration} (h : ¬ (d.secs = 0 ∨ d.subsecMillis = 0)) :
    d.render.toList =
      (Decimal.padded 0 d.secs).toList ++
        '.' :: ((Decimal.padded 3 d.subsecMillis).toList ++ ['s']) := by
  obtain ⟨h0, hms⟩ := not_or.1 h
  rw [render, if_neg h0, if_neg hms, Decimal.toList_padded_zero]
  simp [String.toList_append, Decimal.toList_ofNat]

theorem plain_render_places {d : Duration} (h : ¬ (d.secs = 0 ∨ d.subsecMillis = 0)) :
    ∀ c ∈ d.render.toList, Plain c := by
  rw [toList_render_places h]
  intro c hc
  rcases List.mem_append.1 hc with hc | hc
  · exact plain_of_isDigit (Decimal.isDigit_of_mem_padded hc)
  rcases List.mem_cons.1 hc with rfl | hc
  · decide
  rcases List.mem_append.1 hc with hc | hc
  · exact plain_of_isDigit (Decimal.isDigit_of_mem_padded hc)
  · rw [List.mem_singleton.1 hc]
    decide

theorem parse?_render_places {d : Duration} (h : ¬ (d.secs = 0 ∨ d.subsecMillis = 0)) :
    parse? d.render = none := by
  rw [Option.eq_none_iff_forall_ne_some]
  intro e he
  rw [parse?_iff_written, lower_trim_of_plain (plain_render_places h), toList_render_places h] at he
  exact not_written_of_mem (by simp) e he

/-! ## What a text determines -/

theorem render_congr {d e : Duration} (h : d.millis = e.millis) : d.render = e.render := by
  rw [render, render, secs_eq, secs_eq, subsecMillis_eq, subsecMillis_eq, h]

/-- The text determines the whole milliseconds, and nothing beyond them. -/
theorem render_eq_iff {d e : Duration} (hd : d.secs < 2 ^ 64) (he : e.secs < 2 ^ 64) :
    d.render = e.render ↔ d.millis = e.millis := by
  refine ⟨fun h => ?_, render_congr⟩
  have hread := congrArg parse? h
  by_cases hunits : d.secs = 0 ∨ d.subsecMillis = 0
  · rw [parse?_render_units hunits hd] at hread
    by_cases hunits' : e.secs = 0 ∨ e.subsecMillis = 0
    · rw [parse?_render_units hunits' he, Option.some.injEq, ofMillis, ofMillis,
        Duration.mk.injEq] at hread
      omega
    · rw [parse?_render_places hunits'] at hread
      cases hread
  · rw [parse?_render_places hunits] at hread
    by_cases hunits' : e.secs = 0 ∨ e.subsecMillis = 0
    · rw [parse?_render_units hunits' he] at hread
      cases hread
    · have hlist := congrArg String.toList h
      rw [toList_render_places hunits, toList_render_places hunits',
        Decimal.padded_append_inj (by decide), List.append_left_inj, String.toList_inj,
        Decimal.padded_inj, secs_eq, secs_eq, subsecMillis_eq, subsecMillis_eq] at hlist
      omega

/-! ## Whole milliseconds -/

theorem ofMillis_millis {d : Duration} (h : 1000000 ∣ d.nanos) : ofMillis d.millis = d := by
  rw [ofMillis, millis, Nat.div_mul_cancel h]

theorem units_iff {d : Duration} (h : 1000000 ∣ d.nanos) :
    d.secs = 0 ∨ d.subsecMillis = 0 ↔ d < ofSecs 1 ∨ ∃ n, d = ofSecs n := by
  refine or_congr ?_ ⟨fun hms => ⟨d.secs, ?_⟩, ?_⟩
  · rw [lt_def, secs, ofSecs, Nat.div_eq_zero_iff_lt (by decide)]
  · have hnanos : d.nanos = d.secs * 1000000000 := by
      unfold subsecMillis at hms
      unfold secs
      omega
    exact congrArg Duration.mk hnanos
  · rintro ⟨n, rfl⟩
    rw [subsecMillis, ofSecs, Nat.mul_mod_left]

/-- Spans of whole milliseconds that are rendered alike are equal; what is rendered below one
second or for whole seconds is read back, and nothing else is read. -/
theorem render_faithful {d e : Duration} (hd : 1000000 ∣ d.nanos) (hdsecs : d.secs < 2 ^ 64)
    (he : 1000000 ∣ e.nanos) (hesecs : e.secs < 2 ^ 64) :
    (d.render = e.render → d = e) ∧
      ((d < ofSecs 1 ∨ ∃ n, d = ofSecs n) → parse? d.render = some d) ∧
      (¬ (d < ofSecs 1 ∨ ∃ n, d = ofSecs n) → parse? d.render = none) := by
  refine ⟨fun h => ?_, fun h => ?_, fun h => ?_⟩
  · rw [← ofMillis_millis hd, (render_eq_iff hdsecs hesecs).1 h, ofMillis_millis he]
  · rw [parse?_render_units ((units_iff hd).2 h) hdsecs, ofMillis_millis hd]
  · exact parse?_render_places (mt (units_iff hd).1 h)

/-- The longest span of whole milliseconds, and its whole seconds. -/
theorem render_faithful_max :
    parse? (ofSecs (2 ^ 64 - 1)).render = some (ofSecs (2 ^ 64 - 1)) ∧
      parse? (ofMillis (2 ^ 64 * 1000 - 1)).render = none ∧
      (ofSecs (2 ^ 64 - 1)).render ≠ (ofMillis (2 ^ 64 * 1000 - 1)).render := by
  have hwhole := render_faithful (d := ofSecs (2 ^ 64 - 1)) (e := ofMillis (2 ^ 64 * 1000 - 1))
    (by decide) (by decide) (by decide) (by decide)
  have hlong := render_faithful (d := ofMillis (2 ^ 64 * 1000 - 1)) (e := zero)
    (by decide) (by decide) (by decide) (by decide)
  refine ⟨hwhole.2.1 (Or.inr ⟨_, rfl⟩), hlong.2.2 ?_, fun h => ?_⟩
  · rintro (h | ⟨n, h⟩)
    · exact absurd h (by decide)
    · have hn : (2 ^ 64 * 1000 - 1) * 1000000 = n * 1000000000 := congrArg nanos h
      omega
  · exact absurd (hwhole.1 h) (by decide)

end Duration

end PaneRunner
