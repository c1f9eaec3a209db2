import PaneRunner.Text.Utf8

/-
  Text as bytes and back. `scan_utf8EncodeChar`: a scan takes the bytes of one character as that
  character and goes on behind them. Hence `decode_encode`: every text is read back from its bytes,
  `encode_inj`: two texts with the same bytes are the same, and `mem_utf8EncodeChar_ascii`: an ASCII
  byte stands for nothing but its own character, so a search for a newline may look at the bytes.
-/
namespace PaneRunner.Text.Utf8

theorem encode_append (s t : String) : encode (s ++ t) = encode s ++ encode t := by
  simp [encode]

@[simp] theorem encode_empty : encode "" = [] := rfl

theorem encode_ofList (cs : List Char) :
    encode (.ofList cs) = cs.flatMap String.utf8EncodeChar := by
  simp [encode]

/-! ## First bytes -/

theorem toNat_ofNat {n : Nat} (h : n < 256) : (UInt8.ofNat n).toNat = n :=
  UInt8.toNat_ofNat_of_lt' h

theorem lead_ascii {n : Nat} (h : n < 0x80) : lead (.ofNat n) = .ascii := by
  have hn := toNat_ofNat (show n < 256 by omega)
  simp only [lead, UInt8.lt_iff_toNat_lt, hn, UInt8.reduceToNat]
  rw [if_pos h]

theorem lead_two {n : Nat} (h : 0xC2 ≤ n) (h' : n < 0xE0) : lead (.ofNat n) = .two := by
  have hn := toNat_ofNat (show n < 256 by omega)
  simp only [lead, UInt8.lt_iff_toNat_lt, hn, UInt8.reduceToNat]
  rw [if_neg (by omega), if_neg (by omega), if_pos h']

/-- The range of the second byte depends on the first: it rules out overlong forms below `0xE1`,
and surrogates below `0xED`. -/
theorem lead_three {n : Nat} (h : 0xE0 ≤ n) (h' : n < 0xF0) :
    lead (.ofNat n) =
      .three (if n = 0xE0 then 0xA0 else 0x80) (if n = 0xED then 0x9F else 0xBF) := by
  have hn := toNat_ofNat (show n < 256 by omega)
  simp only [lead, UInt8.lt_iff_toNat_lt, ← UInt8.toNat_inj, hn, UInt8.reduceToNat]
  rw [if_neg (by omega), if_neg (by omega), if_neg (by omega)]
  split
  · simp [*]
  split
  · simp [*]
  · simp [*]

theorem lead_four {n : Nat} (h : 0xF0 ≤ n) (h' : n < 0xF5) :
    lead (.ofNat n) =
      .four (if n = 0xF0 then 0x90 else 0x80) (if n = 0xF4 then 0x8F else 0xBF) := by
  have hn := toNat_ofNat (show n < 256 by omega)
  simp only [lead, UInt8.lt_iff_toNat_lt, ← UInt8.toNat_inj, hn, UInt8.reduceToNat]
  rw [if_neg (by omega), if_neg (by omega), if_neg (by omega), if_neg (by omega),
    if_neg (by omega), if_neg (by omega)]
  split
  · simp [*]
  split
  · rw [if_neg (by omega)]
  · have : n = 0xF4 := by omega
    simp [*]

/-! ## Characters -/

theorem le_ofNat_iff {a : UInt8} {n : Nat} (h : n < 256) : a ≤ .ofNat n ↔ a.toNat ≤ n := by
  rw [UInt8.le_iff_toNat_le, toNat_ofNat h]

theorem ofNat_le_iff {a : UInt8} {n : Nat} (h : n < 256) : .ofNat n ≤ a ↔ n ≤ a.toNat := by
  rw [UInt8.le_iff_toNat_le, toNat_ofNat h]

/-- A byte with payload `n` is a continuation byte. -/
theorem continues {n : Nat} (h : n < 64) :
    (0x80 : UInt8) ≤ .ofNat (n + 0x80) ∧ UInt8.ofNat (n + 0x80) ≤ 0xBF := by
  rw [le_ofNat_iff (by omega), ofNat_le_iff (by omega)]
  simp only [UInt8.reduceToNat]
  omega

theorem low6_ofNat {n : Nat} (h : n < 64) : low6 (.ofNat (n + 0x80)) = n := by
  rw [low6, toNat_ofNat (by omega)]
  omega

/-- A scan reads the bytes of a character back, whatever follows them. -/
theorem scan_utf8EncodeChar (c : Char) (rest : Bytes) :
    scan (String.utf8EncodeChar c ++ rest) = .ok c :: scan rest := by
  have hv := c.valid
  have hc : Char.ofNat c.val.toNat = c := Char.ofNat_toNat c
  simp only [UInt32.isValidChar, Nat.isValidChar] at hv
  unfold String.utf8EncodeChar
  generalize c.val.toNat = v at hv hc ⊢
  dsimp only
  split
  · rename_i h1
    rw [List.singleton_append, scan.eq_def]
    simp only [lead_ascii (show v < 0x80 by omega), toNat_ofNat (show v < 256 by omega), hc]
  rename_i h1
  split
  · rename_i h2
    rw [List.cons_append, scan.eq_def]
    simp only [lead_two (show 0xC2 ≤ v / 64 % 32 + 192 by omega) (by omega), List.singleton_append,
      if_pos (continues (show v % 64 < 64 by omega)), low6_ofNat (show v % 64 < 64 by omega),
      toNat_ofNat (show v / 64 % 32 + 192 < 256 by omega)]
    rw [show (v / 64 % 32 + 192) % 32 * 64 + v % 64 = v by omega, hc]
  rename_i h2
  split
  · rename_i h3
    have hsecond : (if v / 4096 % 16 + 224 = 0xE0 then 0xA0 else (0x80 : UInt8)) ≤
          .ofNat (v / 64 % 64 + 0x80) ∧
        UInt8.ofNat (v / 64 % 64 + 0x80) ≤ if v / 4096 % 16 + 224 = 0xED then 0x9F else 0xBF := by
      rw [le_ofNat_iff (by omega), ofNat_le_iff (by omega)]
      constructor
      · split <;> simp only [UInt8.reduceToNat] <;> omega
      · split <;> simp only [UInt8.reduceToNat] <;> omega
    rw [List.cons_append, scan.eq_def]
    simp only [lead_three (show 0xE0 ≤ v / 4096 % 16 + 224 by omega) (by omega), List.cons_append,
      List.nil_append, if_pos hsecond, if_pos (continues (show v % 64 < 64 by omega)),
      low6_ofNat (show v / 64 % 64 < 64 by omega), low6_ofNat (show v % 64 < 64 by omega),
      toNat_ofNat (show v / 4096 % 16 + 224 < 256 by omega)]
    rw [show (v / 4096 % 16 + 224) % 16 * 4096 + v / 64 % 64 * 64 + v % 64 = v by omega, hc]
  · rename_i h3
    have hsecond : (if v / 262144 % 8 + 240 = 0xF0 then 0x90 else (0x80 : UInt8)) ≤
          .ofNat (v / 4096 % 64 + 0x80) ∧
        UInt8.ofNat (v / 4096 % 64 + 0x80) ≤ if v / 262144 % 8 + 240 = 0xF4 then 0x8F else 0xBF := by
      rw [le_ofNat_iff (by omega), ofNat_le_iff (by omega)]
      constructor
      · split <;> simp only [UInt8.reduceToNat] <;> omega
      · split <;> simp only [UInt8.reduceToNat] <;> omega
    rw [List.cons_append, scan.eq_def]
    simp only [lead_four (show 0xF0 ≤ v / 262144 % 8 + 240 by omega) (by omega), List.cons_append,
      List.nil_append, if_pos hsecond, if_pos (continues (show v / 64 % 64 < 64 by omega)),
      if_pos (continues (show v % 64 < 64 by omega)),
      low6_ofNat (show v / 4096 % 64 < 64 by omega), low6_ofNat (show v / 64 % 64 < 64 by omega),
      low6_ofNat (show v % 64 < 64 by omega),
      toNat_ofNat (show v / 262144 % 8 + 240 < 256 by omega)]
    rw [show (v / 262144 % 8 + 240) % 8 * 262144 + v / 4096 % 64 * 4096 + v / 64 % 64 * 64 + v % 64
      = v by omega, hc]

theorem scan_flatMap (cs : List Char) (rest : Bytes) :
    scan (cs.flatMap String.utf8EncodeChar ++ rest) = cs.map .ok ++ scan rest := by
  induction cs with
  | nil => rfl
  | cons c cs ih => rw [List.flatMap_cons, List.append_assoc, scan_utf8EncodeChar, ih]; rfl

/-! ## Texts -/

theorem decode_encode_append (s : String) (rest : Bytes) :
    decode (encode s ++ rest) = s ++ decode rest := by
  unfold decode encode
  rw [scan_flatMap, List.map_append, String.ofList_append, List.map_map]
  congr 1
  conv => rhs; rw [← String.ofList_toList (s := s)]
  congr 1
  exact List.map_id'' (fun _ => rfl) _

/-- Every text is read back from its bytes. -/
@[simp] theorem decode_encode (s : String) : decode (encode s) = s := by
  have h := decode_encode_append s []
  rw [List.append_nil] at h
  rw [h]
  exact String.append_empty

theorem encode_inj {s t : String} (h : encode s = encode t) : s = t := by
  rw [← decode_encode s, h, decode_encode]

@[simp] theorem encode_eq_nil_iff {s : String} : encode s = [] ↔ s = "" := by
  constructor
  · intro h
    exact encode_inj (h.trans encode_empty.symm)
  · rintro rfl
    rfl

/-- The bytes of one text start those of another only if the text starts it. -/
theorem encode_isPrefix_iff {s t : String} : encode s <+: encode t ↔ s.toList <+: t.toList := by
  constructor
  · rintro ⟨rest, h⟩
    have h' := decode_encode_append s rest
    rw [h, decode_encode] at h'
    rw [h', String.toList_append]
    exact List.prefix_append _ _
  · rintro ⟨rest, h⟩
    unfold encode
    rw [← h, List.flatMap_append]
    exact List.prefix_append _ _

/-! ## ASCII -/

theorem utf8EncodeChar_ascii {c : Char} (h : c.toNat < 0x80) :
    String.utf8EncodeChar c = [.ofNat c.toNat] := by
  unfold String.utf8EncodeChar
  exact if_pos (show c.val.toNat ≤ 0x7F from Nat.le_of_lt_succ h)

/-- A start of an ASCII text's bytes is the bytes of a start of the text. -/
theorem exists_of_encode_eq_append {s : String} (hs : ∀ c ∈ s.toList, c.toNat < 0x80)
    {p r : Bytes} (h : encode s = p ++ r) :
    ∃ x y, s.toList = x ++ y ∧ p = encode (.ofList x) ∧ r = encode (.ofList y) := by
  have hmap : ∀ cs : List Char, (∀ c ∈ cs, c.toNat < 0x80) →
      cs.flatMap String.utf8EncodeChar = cs.map fun c => .ofNat c.toNat := by
    intro cs hcs
    induction cs with
    | nil => rfl
    | cons c cs ih =>
      rw [List.flatMap_cons, List.map_cons, utf8EncodeChar_ascii (hcs c List.mem_cons_self),
        ih fun d hd => hcs d (List.mem_cons_of_mem _ hd), List.singleton_append]
  rw [encode, hmap _ hs] at h
  obtain ⟨x, y, hxy, rfl, rfl⟩ := List.map_eq_append_iff.1 h
  rw [hxy] at hs
  refine ⟨x, y, hxy, ?_, ?_⟩
  · rw [encode_ofList, hmap x fun c hc => hs c (List.mem_append_left _ hc)]
  · rw [encode_ofList, hmap y fun c hc => hs c (List.mem_append_right _ hc)]

/-- An ASCII byte stands for nothing but its own character. -/
theorem mem_utf8EncodeChar_ascii {b : UInt8} (hb : b.toNat < 0x80) {c : Char} :
    b ∈ String.utf8EncodeChar c ↔ c.toNat = b.toNat := by
  have hlow : ∀ n, n < 256 → (b = .ofNat n ↔ n = b.toNat) := fun n hn => by
    rw [← UInt8.toNat_inj, toNat_ofNat hn, eq_comm]
  -- the bytes of every longer form are 0x80 and above
  have hhigh : ∀ n, 0x80 ≤ n → n < 256 → (b = .ofNat n ↔ False) := fun n hn hn' => by
    rw [hlow n hn', iff_false]
    omega
  have hmax := c.valid
  have hv : c.val.toNat = c.toNat := rfl
  simp only [UInt32.isValidChar, Nat.isValidChar, hv] at hmax
  unfold String.utf8EncodeChar
  simp only [hv]
  split
  · simp (disch := omega) only [List.mem_singleton, hlow]
  split
  · simp (disch := omega) only [List.mem_cons, List.not_mem_nil, or_false, hhigh, false_iff]
    omega
  split
  · simp (disch := omega) only [List.mem_cons, List.not_mem_nil, or_false, hhigh, false_iff]
    omega
  · simp (disch := omega) only [List.mem_cons, List.not_mem_nil, or_false, hhigh, false_iff]
    omega

theorem newline_mem_encode_iff {s : String} : (10 : UInt8) ∈ encode s ↔ '\n' ∈ s.toList := by
  constructor
  · intro h
    obtain ⟨c, hc, hb⟩ := List.mem_flatMap.1 h
    have hn := (mem_utf8EncodeChar_ascii (b := 10) (by decide)).1 hb
    have hnewline : c = '\n' := by rw [← Char.ofNat_toNat c, hn]; rfl
    exact hnewline ▸ hc
  · intro h
    exact List.mem_flatMap.2 ⟨'\n', h, by decide⟩

end PaneRunner.Text.Utf8
