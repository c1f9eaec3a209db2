import PaneRunner.Proofs.Capture.RoundTrip

/-
  Capture files that are still being written. A reader may see any start of the file.
  `holdsMarker_iff_of_isPrefix`: it takes what it sees for complete as soon as the marker is there,
  and then the exit code need not be. `readCapture_of_isPrefix_iff`: what is taken for complete is
  read as the finished file would be exactly when the whole exit code is there.
  `readCapture_cut_twelve`: with the code cut off after its first digit, a wrong code is read
  without an error.
-/
namespace PaneRunner.Tmux

open Text

variable {marker : String} {echo entered tail seen : Bytes} {c : Capture}

/-! ## When a file is taken for complete -/

/-- Neither a line of the output nor a part of the marker starts with the marker. -/
theorem holdsMarker_of_isPrefix_eq_false (hm : IsMarker marker) (hecho : 10 ∉ echo)
    (hentered : 10 ∉ entered) {stdout part : Bytes}
    (hout : ∀ l ∈ Capture.outLines entered stdout, ¬ Utf8.encode marker <+: l)
    (hpart : 10 ∉ part) (hshort : ¬ Utf8.encode marker <+: part)
    (hseen : seen <+: Capture.aboveMarker echo entered stdout ++ part) :
    holdsMarker (Exec.fileLines seen) marker = false := by
  rw [holdsMarker, List.any_eq_false]
  intro l hl
  rw [isMarkerLine_iff hm]
  intro hmark
  obtain ⟨l', hl', hprefix⟩ := mem_drop_fileLines hseen hl
  rw [aboveMarker_eq, pieces_flatMap (newline_not_mem_rows hecho hentered stdout),
    pieces_of_not_mem hpart, List.map_cons, List.cons_append, List.drop_succ_cons,
    List.drop_zero] at hl'
  have hmark' := hmark.trans hprefix
  rcases List.mem_append.1 hl' with h | h
  · obtain ⟨line, hline, rfl⟩ := List.mem_map.1 h
    rw [← isPrefix_stripReturn_iff hm.return_not_mem, stripReturn_append] at hmark'
    exact hout line hline hmark'
  · exact hshort (List.mem_singleton.1 h ▸ hmark')

/-- What is seen of a file is taken for complete exactly when the marker is seen. -/
theorem holdsMarker_iff_of_isPrefix (hm : IsMarker marker) (hecho : 10 ∉ echo)
    (hentered : 10 ∉ entered)
    (hout : ∀ l ∈ Capture.outLines entered c.stdout, ¬ Utf8.encode marker <+: l)
    (hseen : seen <+: c.file marker echo entered tail) :
    holdsMarker (Exec.fileLines seen) marker = true ↔
      Capture.aboveMarker echo entered c.stdout ++ Utf8.encode marker <+: seen := by
  constructor
  · intro haccept
    rw [file_eq, ← List.append_assoc] at hseen
    rcases List.prefix_or_prefix_of_prefix hseen (List.prefix_append _ _) with h | h
    · -- all of the marker but its last byte is not enough
      rw [← List.dropLast_concat_getLast hm.encode_ne_nil, ← List.append_assoc,
        List.prefix_concat_iff] at h
      rcases h with rfl | h
      · exact ⟨[], by rw [List.append_nil, List.append_assoc, List.dropLast_concat_getLast]⟩
      · have hpart : 10 ∉ (Utf8.encode marker).dropLast :=
          fun hmem => hm.newline_not_mem (List.dropLast_subset _ hmem)
        have hshort : ¬ Utf8.encode marker <+: (Utf8.encode marker).dropLast := by
          intro hp
          have hlen := hp.length_le
          have hpos := List.length_pos_iff.2 hm.encode_ne_nil
          rw [List.length_dropLast] at hlen
          omega
        rw [holdsMarker_of_isPrefix_eq_false hm hecho hentered hout hpart hshort h] at haccept
        cases haccept
    · exact h
  · rintro ⟨rest, rfl⟩
    rw [List.append_assoc]
    exact holdsMarker_of_marker hm hecho hentered _ rest

/-! ## The exit code is there -/

/-- From the exit code on, what is seen has the marker line and no other below it. -/
theorem exists_lines_of_code (hm : IsMarker marker) (code : Int32) {rest : Bytes}
    (htail : ∀ l ∈ Exec.fileLines tail, ¬ Utf8.encode marker <+: l)
    (hrest : rest <+: 13 :: 10 :: tail) :
    ∃ last below, Exec.fileLines (Utf8.encode (markerLine marker code) ++ rest) = last :: below ∧
      stripReturn last = Utf8.encode (markerLine marker code) ∧
      ∀ l ∈ below, ¬ Utf8.encode marker <+: l := by
  have hline := not_mem_encode_markerLine (by decide) hm.newline_not_mem code
  have hreturn := not_mem_encode_markerLine (by decide) hm.return_not_mem code
  have hne : Utf8.encode (markerLine marker code) ≠ [] := by simp [encode_markerLine]
  rcases List.prefix_cons_iff.1 hrest with rfl | ⟨rest, rfl, hrest'⟩
  · rw [List.append_nil]
    exact ⟨_, [], fileLines_of_not_mem hline hne, stripReturn_of_not_mem hreturn, by simp⟩
  rcases List.prefix_cons_iff.1 hrest' with rfl | ⟨rest, rfl, htail'⟩
  · exact ⟨_, [], fileLines_of_not_mem (by simpa using hline) (by simp), stripReturn_append _,
      by simp⟩
  · refine ⟨_, Exec.fileLines rest, ?_, stripReturn_append _, ?_⟩
    · have h := fileLines_markerLine hm code rest
      rwa [List.append_assoc, List.singleton_append] at h
    · intro l hl hmark
      obtain ⟨l', hl', hprefix⟩ := mem_fileLines_of_isPrefix htail' hl
      rcases pieces_eq_fileLines tail with e | e
      · exact htail l' (e ▸ hl') (hmark.trans hprefix)
      · rw [e] at hl'
        rcases List.mem_append.1 hl' with hl' | hl'
        · exact htail l' hl' (hmark.trans hprefix)
        · rw [List.mem_singleton.1 hl'] at hprefix
          exact hm.encode_ne_nil (List.prefix_nil.1 (hmark.trans hprefix))

/-- From the exit code on, what is seen is read as the finished file is. -/
theorem readCapture_of_code (hm : IsMarker marker) (hecho : 10 ∉ echo) (hentered : 10 ∉ entered)
    (htail : ∀ l ∈ Exec.fileLines tail, ¬ Utf8.encode marker <+: l)
    {first : Bytes} {more : List Bytes}
    (hlines : Capture.outLines entered c.stdout = first :: more) {rest : Bytes}
    (hrest : rest <+: 13 :: 10 :: tail) :
    readCapture (Exec.fileLines (c.upToCode marker echo entered ++ rest)) marker =
      .ok { stdout := joinWith [10] (afterReturn first :: more), code := c.code } := by
  obtain ⟨last, below, hfile, hstrip, hbelow⟩ := exists_lines_of_code hm c.code htail hrest
  have hlast : isMarkerLine marker last = true := by
    rw [isMarkerLine_iff hm, ← isPrefix_stripReturn_iff hm.return_not_mem, hstrip]
    exact marker_isPrefix_markerLine _ _
  rw [Capture.upToCode, List.append_assoc, fileLines_aboveMarker hecho hentered, hfile,
    readCapture_layout hlast fun l hl => (isMarkerLine_eq_false hm).2 (hbelow l hl), hstrip,
    Utf8.decode_encode, markerLine, exitCode_line, map_stripReturn, hlines]
  rfl

/-! ## The exit code is cut -/

/-- A cut exit code is not read as the exit code. -/
theorem exitCode_cut (marker : String) {code : Int32} {q r : Bytes}
    (hcut : 32 :: Utf8.encode (Decimal.ofInt code.toInt) = q ++ r) (hr : r ≠ []) :
    exitCode (Utf8.decode (Utf8.encode marker ++ q)) marker ≠ .ok code := by
  cases q with
  | nil =>
    have h := stripStart?_append marker ""
    rw [String.append_empty] at h
    have hblank : startsWith "" " " = false := by decide
    rw [List.append_nil, Utf8.decode_encode]
    simp [exitCode, h, hblank]
  | cons b q =>
    rw [List.cons_append] at hcut
    obtain ⟨rfl, hdigits⟩ := List.cons_eq_cons.1 hcut
    have hascii : ∀ ch ∈ (Decimal.ofInt code.toInt).toList, ch.toNat < 0x80 := by
      intro ch hch
      have := Decimal.toNat_of_mem_ofInt hch
      omega
    obtain ⟨x, y, hxy, rfl, rfl⟩ := Utf8.exists_of_encode_eq_append hascii hdigits
    have hblank : ∀ ch ∈ x, isBlankChar ch = false :=
      fun ch hch => isBlankChar_of_mem_ofInt (hxy ▸ List.mem_append_left _ hch)
    have hy : y ≠ [] := by
      rintro rfl
      exact hr rfl
    have htext : Utf8.encode marker ++ 32 :: Utf8.encode (.ofList x) =
        Utf8.encode (marker ++ (" " ++ .ofList x)) := by
      rw [Utf8.encode_append, Utf8.encode_append]
      rfl
    rw [htext, Utf8.decode_encode]
    cases hsigned : Decimal.signed? (1 <<< 31) x with
    | none =>
      rw [exitCode_of_signed?_none hblank hsigned]
      exact fun h => by cases h
    | some j =>
      rw [exitCode_of_signed? marker hblank hsigned]
      have hne := Decimal.ne_of_signed?_append hxy hy hsigned
      have hrange := Decimal.range_of_signed? (by decide) hsigned
      intro h
      refine hne ?_
      have hcode := congrArg Int32.toInt (Except.ok.inj h)
      rwa [Int32.toInt_ofInt_of_le (by simpa using hrange.1) (by simpa using hrange.2)] at hcode

/-- Before the end of the exit code, what is seen is not read as the finished file is. -/
theorem readCapture_cut_ne (hm : IsMarker marker) (hecho : 10 ∉ echo) (hentered : 10 ∉ entered)
    {q r : Bytes} (hcut : 32 :: Utf8.encode (Decimal.ofInt c.code.toInt) = q ++ r) (hr : r ≠ [])
    (stdout : Bytes) :
    readCapture
        (Exec.fileLines (Capture.aboveMarker echo entered c.stdout ++ (Utf8.encode marker ++ q)))
        marker ≠
      .ok { stdout, code := c.code } := by
  have hfree : ∀ b : UInt8, b.toNat < 32 → b ∉ Utf8.encode marker → b ∉ Utf8.encode marker ++ q := by
    intro b hb hmark hmem
    rcases List.mem_append.1 hmem with h | h
    · exact hmark h
    · have hcode : b ∈ 32 :: Utf8.encode (Decimal.ofInt c.code.toInt) :=
        hcut ▸ List.mem_append_left _ h
      rcases List.mem_cons.1 hcode with rfl | h
      · exact absurd hb (by decide)
      · exact not_mem_encode_ofInt (by omega) _ h
  have hline := hfree 10 (by decide) hm.newline_not_mem
  have hreturn := hfree 13 (by decide) hm.return_not_mem
  have hlast : isMarkerLine marker (Utf8.encode marker ++ q) = true :=
    (isMarkerLine_iff hm).2 (List.prefix_append _ _)
  rw [fileLines_aboveMarker hecho hentered,
    fileLines_of_not_mem hline (by simp [hm.encode_ne_nil]), readCapture_layout hlast (by simp),
    stripReturn_of_not_mem hreturn]
  have hcode := exitCode_cut marker hcut hr
  cases hexit : exitCode (Utf8.decode (Utf8.encode marker ++ q)) marker with
  | error e => exact fun h => by cases h
  | ok code =>
    intro h
    rw [hexit] at hcode
    rw [Except.bind] at h
    split at h
    · cases h
    · cases h
      exact hcode rfl

/-! ## What is taken for complete -/

/-- What is seen of a capture file and taken for complete is read as the finished file is exactly
when the whole exit code is seen. -/
theorem readCapture_of_isPrefix_iff {cfg : Config} (hcfg : cfg.validate = .ok ())
    (hecho : 10 ∉ echo)
    (hout : ∀ l ∈ pieces 10 c.stdout, ¬ Utf8.encode cfg.run.marker <+: l)
    (htail : ∀ l ∈ Exec.fileLines tail, ¬ Utf8.encode cfg.run.marker <+: l)
    (hseen : seen <+: c.file cfg.run.marker echo [] tail)
    (haccept : holdsMarker (Exec.fileLines seen) cfg.run.marker = true) :
    readCapture (Exec.fileLines seen) cfg.run.marker =
        readCapture (Exec.fileLines (c.file cfg.run.marker echo [] tail)) cfg.run.marker ↔
      c.upToCode cfg.run.marker echo [] <+: seen := by
  have hm := Config.isMarker_of_validate hcfg
  have hlines : Capture.outLines [] c.stdout = pieces 10 c.stdout := by
    rw [Capture.outLines]
    cases pieces 10 c.stdout <;> rfl
  rw [← hlines] at hout
  obtain ⟨first, more, hfirst⟩ := List.exists_cons_of_ne_nil
    (show Capture.outLines [] c.stdout ≠ [] from hlines ▸ pieces_ne_nil _ _)
  rw [readCapture_lines hm hecho List.not_mem_nil htail hfirst]
  constructor
  · intro hread
    obtain ⟨q, rfl⟩ := (holdsMarker_iff_of_isPrefix hm hecho List.not_mem_nil hout hseen).1 haccept
    rw [file_eq, List.append_assoc, List.prefix_append_right_inj,
      List.prefix_append_right_inj] at hseen
    rw [Capture.upToCode, encode_markerLine, List.append_assoc, List.prefix_append_right_inj,
      List.prefix_append_right_inj]
    rcases List.prefix_or_prefix_of_prefix hseen (List.prefix_append _ _) with ⟨r, hr⟩ | h
    · -- nothing of the code may be missing, or another code would be read
      by_cases hr' : r = []
      · exact ⟨[], by rw [List.append_nil, ← hr, hr', List.append_nil]⟩
      · rw [List.append_assoc] at hread
        exact absurd hread (readCapture_cut_ne hm hecho List.not_mem_nil hr.symm hr' _)
    · exact h
  · rintro ⟨rest, rfl⟩
    have hrest : rest <+: 13 :: 10 :: tail := by
      rw [Capture.file, List.append_assoc, List.prefix_append_right_inj] at hseen
      exact hseen
    exact readCapture_of_code hm hecho List.not_mem_nil htail hfirst hrest

/-- The whole exit code is seen, and nothing behind it. -/
theorem readCapture_upToCode_twelve :
    readCapture (Exec.fileLines
        (Capture.upToCode "M" (Utf8.encode "$ x") [] ⟨Utf8.encode "a\n", 12⟩)) "M" =
      readCapture (Exec.fileLines
        (Capture.file "M" (Utf8.encode "$ x") [] ⟨Utf8.encode "a\n", 12⟩ (Utf8.encode "$ "))) "M" :=
  have hvalid : shortMarker.validate = .ok () := by decide
  have hseen : Capture.upToCode "M" (Utf8.encode "$ x") [] ⟨Utf8.encode "a\n", 12⟩ <+:
      Capture.file shortMarker.run.marker (Utf8.encode "$ x") [] ⟨Utf8.encode "a\n", 12⟩
        (Utf8.encode "$ ") := by decide +kernel
  (readCapture_of_isPrefix_iff hvalid (by decide) (by decide) (by decide) hseen
    (by decide +kernel)).2 (List.prefix_refl _)

/-- The exit code 12 is read as 1 when its last digit has not been written yet, although the file is
taken for complete. -/
theorem readCapture_cut_twelve :
    Utf8.encode "$ x\r\na\r\n\r\nM 1" <+:
        Capture.file "M" (Utf8.encode "$ x") [] ⟨Utf8.encode "a\n", 12⟩ (Utf8.encode "$ ") ∧
      holdsMarker (Exec.fileLines (Utf8.encode "$ x\r\na\r\n\r\nM 1")) "M" = true ∧
      readCapture (Exec.fileLines (Utf8.encode "$ x\r\na\r\n\r\nM 1")) "M" =
        .ok ⟨Utf8.encode "a\n", 1⟩ ∧
      readCapture (Exec.fileLines
          (Capture.file "M" (Utf8.encode "$ x") [] ⟨Utf8.encode "a\n", 12⟩ (Utf8.encode "$ "))) "M" =
        .ok ⟨Utf8.encode "a\n", 12⟩ := by
  decide +kernel

end PaneRunner.Tmux
