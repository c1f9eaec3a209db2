import Mathlib.Data.List.Basic
import PaneRunner.Proofs.Config.Valid
import PaneRunner.Proofs.Text.Numerals
import PaneRunner.Proofs.Text.Pieces
import PaneRunner.Proofs.Text.Search
import PaneRunner.Proofs.Text.Utf8

/-
  The lines of a capture file. Because a valid marker holds no blank, a carriage return at the end
  of a line does not change whether the line starts with it (`isMarkerLine_iff`). `exitCode_line`:
  the code on a marker line is the number written there. `readCapture_layout`: a file is read
  through its last marker line, whatever stands below it and whatever is on the first line.
-/
namespace PaneRunner.Tmux

open Text

/-! ## Bytes of a marker -/

namespace IsMarker

variable {marker : String} (hm : IsMarker marker)

include hm

theorem encode_ne_nil : Utf8.encode marker ≠ [] :=
  fun h => hm.ne_empty (Utf8.encode_eq_nil_iff.1 h)

/-- A blank of one byte is no byte of a marker. -/
theorem not_mem_encode {b : UInt8} (hb : b.toNat < 0x80)
    (hblank : isBlankChar (.ofNat b.toNat) = true) : b ∉ Utf8.encode marker := by
  intro h
  obtain ⟨c, hc, hbc⟩ := List.mem_flatMap.1 h
  have hcb : c = .ofNat b.toNat := by
    rw [← (Utf8.mem_utf8EncodeChar_ascii hb).1 hbc, Char.ofNat_toNat]
  have := hm.no_blank c hc
  rw [hcb, hblank] at this
  cases this

theorem return_not_mem : (13 : UInt8) ∉ Utf8.encode marker :=
  hm.not_mem_encode (by decide) (by decide)

theorem newline_not_mem : (10 : UInt8) ∉ Utf8.encode marker :=
  hm.not_mem_encode (by decide) (by decide)

end IsMarker

/-! ## Carriage returns -/

@[simp] theorem stripReturn_append (l : Bytes) : stripReturn (l ++ [13]) = l := by
  simp [stripReturn]

theorem stripReturn_of_not_mem {l : Bytes} (h : 13 ∉ l) : stripReturn l = l :=
  if_neg fun e => h (List.mem_of_getLast? e)

theorem stripReturn_cases (l : Bytes) : l = stripReturn l ∨ l = stripReturn l ++ [13] := by
  unfold stripReturn
  split
  · rename_i h
    exact Or.inr (List.dropLast_append_getLast? 13 h).symm
  · exact Or.inl rfl

theorem stripReturn_isPrefix (l : Bytes) : stripReturn l <+: l := by
  rcases stripReturn_cases l with h | h
  · exact h ▸ List.prefix_refl _
  · conv => rhs; rw [h]
    exact List.prefix_append _ _

/-- What has no carriage return starts a line exactly when it starts the line without the carriage
return at its end. -/
theorem isPrefix_stripReturn_iff {p l : Bytes} (hp : 13 ∉ p) : p <+: stripReturn l ↔ p <+: l := by
  constructor
  · exact fun h => h.trans (stripReturn_isPrefix l)
  · intro h
    rcases stripReturn_cases l with e | e
    · exact e ▸ h
    · rw [e] at h
      rcases List.prefix_concat_iff.1 h with h | h
      · exact absurd (h ▸ List.mem_append_right _ List.mem_cons_self) hp
      · exact h

theorem isMarkerLine_iff {marker : String} (hm : IsMarker marker) {l : Bytes} :
    isMarkerLine marker l = true ↔ Utf8.encode marker <+: l := by
  rw [isMarkerLine, isSome_dropStart?, isPrefix_stripReturn_iff hm.return_not_mem]

theorem isMarkerLine_eq_false {marker : String} (hm : IsMarker marker) {l : Bytes} :
    isMarkerLine marker l = false ↔ ¬ Utf8.encode marker <+: l := by
  rw [← isMarkerLine_iff hm, Bool.not_eq_true]

/-! ## The exit code -/

/-- Nothing is trimmed from a text without blanks but the blank in front of it. -/
theorem trim_space_append {cs : List Char} (h : ∀ c ∈ cs, isBlankChar c = false) :
    (trim (" " ++ .ofList cs)).toList = cs := by
  have hstart : trimStart (' ' :: cs) = cs := by
    rw [trimStart, List.dropWhile_cons_of_pos (by decide)]
    cases cs with
    | nil => rfl
    | cons c cs => rw [List.dropWhile_cons_of_neg (by simp [h c])]
  have hend : trimEnd cs = cs := by
    rw [trimEnd]
    cases hr : cs.reverse with
    | nil => simpa using hr.symm
    | cons c rs =>
      have hc : c ∈ cs := List.mem_reverse.1 (hr ▸ List.mem_cons_self)
      rw [List.dropWhile_cons_of_neg (by simp [h c hc]), ← hr, List.reverse_reverse]
  have hlist : (" " ++ String.ofList cs).toList = ' ' :: cs := by simp
  rw [trim, hlist, hstart, hend, String.toList_ofList]

/-- Behind the marker and one blank, a text without blanks is the number that it is read as. -/
theorem exitCode_of_signed? (marker : String) {cs : List Char} {i : Int}
    (hcs : ∀ c ∈ cs, isBlankChar c = false) (hi : Decimal.signed? (1 <<< 31) cs = some i) :
    exitCode (marker ++ (" " ++ .ofList cs)) marker = .ok (.ofInt i) := by
  have hstart : startsWith (" " ++ String.ofList cs) " " = true := by
    rw [startsWith_iff, String.toList_append]
    exact List.prefix_append _ _
  simp only [exitCode, stripStart?_append, Option.bind_eq_bind, Option.bind_some, hstart, if_true,
    trim_space_append hcs, hi]

theorem exitCode_of_signed?_none {marker : String} {cs : List Char}
    (hcs : ∀ c ∈ cs, isBlankChar c = false) (hi : Decimal.signed? (1 <<< 31) cs = none) :
    exitCode (marker ++ (" " ++ .ofList cs)) marker =
      .error (.exitCodeParse (marker ++ (" " ++ .ofList cs))) := by
  have hstart : startsWith (" " ++ String.ofList cs) " " = true := by
    rw [startsWith_iff, String.toList_append]
    exact List.prefix_append _ _
  simp only [exitCode, stripStart?_append, Option.bind_eq_bind, Option.bind_some, hstart, if_true,
    trim_space_append hcs, hi]

theorem isBlankChar_of_mem_ofInt {i : Int} {c : Char} (h : c ∈ (Decimal.ofInt i).toList) :
    isBlankChar c = false := by
  have := Decimal.toNat_of_mem_ofInt h
  simp [isBlankChar]
  omega

/-- The code on a marker line is the number written there. -/
theorem exitCode_line (marker : String) (code : Int32) :
    exitCode (marker ++ (" " ++ Decimal.ofInt code.toInt)) marker = .ok code := by
  have hlow := Int32.le_toInt code
  have hhigh := Int32.toInt_lt code
  have hsigned : Decimal.signed? (1 <<< 31) (Decimal.ofInt code.toInt).toList = some code.toInt :=
    Decimal.signed?_ofInt (by simpa using hlow) (by simpa using hhigh)
  have h := exitCode_of_signed? marker (fun c hc => isBlankChar_of_mem_ofInt hc) hsigned
  rwa [String.ofList_toList, Int32.ofInt_toInt] at h

/-! ## Files -/

/-- A file is read through its last marker line: what stands below it and what the first line says
does not count. -/
theorem readCapture_layout {marker : String} {echo last : Bytes} {out below : List Bytes}
    (hlast : isMarkerLine marker last = true)
    (hbelow : ∀ l ∈ below, isMarkerLine marker l = false) :
    readCapture (echo :: (out ++ last :: below)) marker =
      (exitCode (Utf8.decode (stripReturn last)) marker).bind fun code =>
        match out.map stripReturn with
        | [] => .error (.captureFormat "no output lines between echoed input and end marker")
        | first :: more => .ok { stdout := joinWith [10] (afterReturn first :: more), code } := by
  have hrev : ((out ++ last :: below).reverse.dropWhile fun l => !isMarkerLine marker l) =
      last :: out.reverse := by
    rw [List.reverse_append, List.reverse_cons, List.append_assoc,
      List.dropWhile_append_of_pos (by simpa using hbelow), List.singleton_append,
      List.dropWhile_cons_of_neg (by simp [hlast])]
  obtain ⟨b, bs, hb⟩ : ∃ b bs, out ++ last :: below = b :: bs := by
    cases out with
    | nil => exact ⟨_, _, rfl⟩
    | cons o os => exact ⟨_, _, rfl⟩
  rw [hb] at hrev ⊢
  simp only [readCapture, hrev, List.reverse_reverse]
  rfl

end PaneRunner.Tmux
