import PaneRunner.Proofs.Capture.Lines

/-
  The capture file of a finished command, and its way back. `cooked` is how a terminal writes
  newlines, `Capture.file` the file: the echo of the typed line, what the shell prints when the line
  is entered, the output, the marker line with the exit code, and whatever comes after.
  `fileLines_aboveMarker` gives its lines. `readCapture_file`: the output and the code are read
  back, for every output, also one that is no text or holds lines that look like the marker line.
-/
namespace PaneRunner.Tmux

open Text

/-- Bytes as a terminal writes them, with a carriage return before every newline. -/
def cooked (bytes : Bytes) : Bytes := bytes.flatMap fun b => if b = 10 then [13, 10] else [b]

/-- The marker line of an exit code. -/
def markerLine (marker : String) (code : Int32) : String :=
  marker ++ (" " ++ Decimal.ofInt code.toInt)

namespace Capture

/-- A capture file above the marker line: the echo of the typed line, what is printed when the line
is entered, and the output, which the marker command ends with a newline of its own. -/
def aboveMarker (echo entered stdout : Bytes) : Bytes :=
  echo ++ [13, 10] ++ (entered ++ cooked stdout) ++ [13, 10]

/-- A capture file up to the exit code. -/
def upToCode (marker : String) (echo entered : Bytes) (c : Capture) : Bytes :=
  aboveMarker echo entered c.stdout ++ Utf8.encode (markerLine marker c.code)

/-- The capture file of a command that has ended. -/
def file (marker : String) (echo entered : Bytes) (c : Capture) (tail : Bytes) : Bytes :=
  upToCode marker echo entered c ++ [13, 10] ++ tail

/-- The lines of the output, the first with what was printed when the line was entered. -/
def outLines (entered stdout : Bytes) : List Bytes := (pieces 10 stdout).modifyHead (entered ++ ·)

end Capture

/-! ## Lines of the output -/

theorem cooked_append_newline (bytes : Bytes) :
    cooked bytes ++ [13, 10] = (pieces 10 bytes).flatMap (· ++ [13, 10]) :=
  (flatMap_pieces 10 [13, 10] bytes).symm

theorem flatMap_modifyHead {ps : List Bytes} (h : ps ≠ []) (t entered : Bytes) :
    (ps.modifyHead (entered ++ ·)).flatMap (· ++ t) = entered ++ ps.flatMap (· ++ t) := by
  cases ps with
  | nil => exact absurd rfl h
  | cons p ps => simp

theorem flatMap_outLines (entered stdout : Bytes) :
    (Capture.outLines entered stdout).flatMap (· ++ [13, 10]) =
      entered ++ cooked stdout ++ [13, 10] := by
  rw [Capture.outLines, flatMap_modifyHead (pieces_ne_nil _ _), ← cooked_append_newline,
    List.append_assoc]

theorem newline_not_mem_outLines {entered stdout : Bytes} (h : 10 ∉ entered) :
    ∀ l ∈ Capture.outLines entered stdout, 10 ∉ l := by
  intro l hl
  rw [Capture.outLines] at hl
  cases hp : pieces 10 stdout with
  | nil => exact absurd hp (pieces_ne_nil _ _)
  | cons p ps =>
    have hpieces : ∀ q ∈ p :: ps, 10 ∉ q := fun q hq => not_mem_of_mem_pieces (hp ▸ hq)
    rw [hp, List.modifyHead_cons] at hl
    rcases List.mem_cons.1 hl with rfl | hl
    · rw [List.mem_append]
      rintro (hm | hm)
      · exact h hm
      · exact hpieces p List.mem_cons_self hm
    · exact hpieces l (List.mem_cons_of_mem _ hl)

/-! ## The marker line -/

theorem encode_markerLine (marker : String) (code : Int32) :
    Utf8.encode (markerLine marker code) =
      Utf8.encode marker ++ (32 :: Utf8.encode (Decimal.ofInt code.toInt)) := by
  rw [markerLine, Utf8.encode_append, Utf8.encode_append]
  rfl

/-- Numbers are written in ASCII, without a newline or a carriage return. -/
theorem not_mem_encode_ofInt {b : UInt8} (hb : b.toNat < 45) (i : Int) :
    b ∉ Utf8.encode (Decimal.ofInt i) := by
  intro h
  obtain ⟨c, hc, hbc⟩ := List.mem_flatMap.1 h
  have hcb := (Utf8.mem_utf8EncodeChar_ascii (by omega)).1 hbc
  have := Decimal.toNat_of_mem_ofInt hc
  omega

theorem not_mem_encode_markerLine {marker : String} {b : UInt8} (hb : b.toNat < 32)
    (h : b ∉ Utf8.encode marker) (code : Int32) : b ∉ Utf8.encode (markerLine marker code) := by
  rw [encode_markerLine]
  intro hm
  rcases List.mem_append.1 hm with hm | hm
  · exact h hm
  rcases List.mem_cons.1 hm with rfl | hm
  · exact absurd hb (by decide)
  · exact not_mem_encode_ofInt (by omega) _ hm

theorem marker_isPrefix_markerLine (marker : String) (code : Int32) :
    Utf8.encode marker <+: Utf8.encode (markerLine marker code) := by
  rw [encode_markerLine]
  exact List.prefix_append _ _

/-! ## The file -/

theorem aboveMarker_eq (echo entered stdout : Bytes) :
    Capture.aboveMarker echo entered stdout =
      (echo :: Capture.outLines entered stdout).flatMap (· ++ [13, 10]) := by
  rw [List.flatMap_cons, flatMap_outLines, Capture.aboveMarker]
  simp only [List.append_assoc]

theorem newline_not_mem_rows {echo entered : Bytes} (hecho : 10 ∉ echo) (hentered : 10 ∉ entered)
    (stdout : Bytes) : ∀ l ∈ echo :: Capture.outLines entered stdout, 10 ∉ l := by
  intro l hl
  rcases List.mem_cons.1 hl with rfl | hl
  · exact hecho
  · exact newline_not_mem_outLines hentered l hl

/-- The lines above the marker line come first, whatever follows them. -/
theorem fileLines_aboveMarker {echo entered : Bytes} (hecho : 10 ∉ echo) (hentered : 10 ∉ entered)
    (stdout rest : Bytes) :
    Exec.fileLines (Capture.aboveMarker echo entered stdout ++ rest) =
      (echo ++ [13]) :: ((Capture.outLines entered stdout).map (· ++ [13]) ++
        Exec.fileLines rest) := by
  rw [aboveMarker_eq, fileLines_flatMap (newline_not_mem_rows hecho hentered stdout)]
  rfl

theorem fileLines_markerLine {marker : String} (hm : IsMarker marker) (code : Int32)
    (tail : Bytes) :
    Exec.fileLines (Utf8.encode (markerLine marker code) ++ [13] ++ 10 :: tail) =
      (Utf8.encode (markerLine marker code) ++ [13]) :: Exec.fileLines tail := by
  have hline := not_mem_encode_markerLine (by decide) hm.newline_not_mem code
  exact fileLines_line (by simpa using hline) tail

/-- What stands in a finished file behind the lines above the marker line. -/
theorem file_eq (marker : String) (echo entered : Bytes) (c : Capture) (tail : Bytes) :
    c.file marker echo entered tail =
      Capture.aboveMarker echo entered c.stdout ++ (Utf8.encode marker ++
        (32 :: Utf8.encode (Decimal.ofInt c.code.toInt) ++ 13 :: 10 :: tail)) := by
  simp [Capture.file, Capture.upToCode, encode_markerLine]

/-- A file holds the marker as soon as the marker is there. -/
theorem holdsMarker_of_marker {marker : String} (hm : IsMarker marker) {echo entered : Bytes}
    (hecho : 10 ∉ echo) (hentered : 10 ∉ entered) (stdout rest : Bytes) :
    holdsMarker
      (Exec.fileLines (Capture.aboveMarker echo entered stdout ++ (Utf8.encode marker ++ rest)))
      marker = true := by
  obtain ⟨q, more, hlines⟩ := exists_fileLines_append hm.newline_not_mem hm.encode_ne_nil rest
  rw [holdsMarker, fileLines_aboveMarker hecho hentered, hlines, List.drop_succ_cons,
    List.drop_zero, List.any_eq_true]
  exact ⟨_, List.mem_append_right _ List.mem_cons_self,
    (isMarkerLine_iff hm).2 (List.prefix_append _ _)⟩

theorem map_stripReturn (ls : List Bytes) : (ls.map (· ++ [13])).map stripReturn = ls := by
  rw [List.map_map]
  exact List.map_id'' stripReturn_append ls

theorem afterReturn_of_not_mem {l : Bytes} (h : 13 ∉ l) : afterReturn l = l := by
  rw [afterReturn, cutAt?_of_not_mem h]

theorem afterReturn_append {x : Bytes} (h : 13 ∉ x) (l : Bytes) :
    afterReturn (x ++ [13] ++ l) = l := by
  rw [List.append_assoc, List.singleton_append, afterReturn, cutAt?_singleton h]

/-- A finished file is read as the lines of its output, the first of them from its first carriage
return on, and its code. -/
theorem readCapture_lines {marker : String} (hm : IsMarker marker) {echo entered tail : Bytes}
    {c : Capture} (hecho : 10 ∉ echo) (hentered : 10 ∉ entered)
    (htail : ∀ l ∈ Exec.fileLines tail, ¬ Utf8.encode marker <+: l)
    {first : Bytes} {more : List Bytes}
    (hlines : Capture.outLines entered c.stdout = first :: more) :
    readCapture (Exec.fileLines (c.file marker echo entered tail)) marker =
      .ok { stdout := joinWith [10] (afterReturn first :: more), code := c.code } := by
  have hlast : isMarkerLine marker (Utf8.encode (markerLine marker c.code) ++ [13]) = true :=
    (isMarkerLine_iff hm).2 ((marker_isPrefix_markerLine _ _).trans (List.prefix_append _ _))
  have hbelow : ∀ l ∈ Exec.fileLines tail, isMarkerLine marker l = false :=
    fun l hl => (isMarkerLine_eq_false hm).2 (htail l hl)
  have hfile : c.file marker echo entered tail = Capture.aboveMarker echo entered c.stdout ++
      (Utf8.encode (markerLine marker c.code) ++ [13] ++ 10 :: tail) := by
    simp [Capture.file, Capture.upToCode]
  rw [hfile, fileLines_aboveMarker hecho hentered, fileLines_markerLine hm,
    readCapture_layout hlast hbelow, stripReturn_append, Utf8.decode_encode, markerLine,
    exitCode_line, map_stripReturn, hlines]
  rfl

/-! ## The way back -/

/-- What a shell prints when the line is entered, as it can be told from the output: a text that
ends in its only carriage return, or nothing if the first line of the output has no carriage return.
-/
def Removable (entered stdout : Bytes) : Prop :=
  (∃ x, entered = x ++ [13] ∧ 13 ∉ x ∧ 10 ∉ x) ∨
    (entered = [] ∧ ∀ first ∈ (pieces 10 stdout).head?, 13 ∉ first)

theorem Removable.newline_not_mem {entered stdout : Bytes} (h : Removable entered stdout) :
    10 ∉ entered := by
  rcases h with ⟨x, rfl, -, hx⟩ | ⟨rfl, -⟩
  · simpa using hx
  · exact List.not_mem_nil

/-- Taking off what was printed when the line was entered leaves the output. -/
theorem Removable.joinWith_outLines {entered stdout : Bytes} (h : Removable entered stdout) :
    ∃ first more, Capture.outLines entered stdout = first :: more ∧
      joinWith [10] (afterReturn first :: more) = stdout := by
  cases hp : pieces 10 stdout with
  | nil => exact absurd hp (pieces_ne_nil _ _)
  | cons p ps =>
    refine ⟨entered ++ p, ps, by rw [Capture.outLines, hp, List.modifyHead_cons], ?_⟩
    have hfirst : afterReturn (entered ++ p) = p := by
      rcases h with ⟨x, rfl, hx, -⟩ | ⟨rfl, hfirst⟩
      · exact afterReturn_append hx p
      · exact afterReturn_of_not_mem (hfirst p (by simp [hp]))
    rw [hfirst, ← hp, joinWith_pieces]

/-- The output and the exit code of a finished command come back from its capture file: for every
output, also one that is no text, has carriage returns, ends in no newline, or holds lines that
start with the marker. -/
theorem readCapture_file {cfg : Config} (hcfg : cfg.validate = .ok ())
    {echo entered tail : Bytes} (c : Capture) (hecho : 10 ∉ echo)
    (hentered : Removable entered c.stdout)
    (htail : ∀ l ∈ Exec.fileLines tail, ¬ Utf8.encode cfg.run.marker <+: l) :
    readCapture (Exec.fileLines (c.file cfg.run.marker echo entered tail)) cfg.run.marker =
      .ok c := by
  have hm := Config.isMarker_of_validate hcfg
  obtain ⟨first, more, hlines, hjoin⟩ := hentered.joinWith_outLines
  rw [readCapture_lines hm hecho hentered.newline_not_mem htail hlines, hjoin]

/-- A marker of one letter. -/
def shortMarker : Config := { run := { marker := "M" } }

/-- An output that is no text, with a carriage return before a newline and a line that looks like a
marker line, behind a terminal control that ends in a carriage return. -/
theorem readCapture_file_lookalike :
    readCapture
        (Exec.fileLines (Capture.file "M" (Utf8.encode "$ cat") (Utf8.encode "\x1b[?2004l\r")
          ⟨[0xFF, 13, 10, 77, 32, 48, 10], -7⟩ (Utf8.encode "$ ")))
        "M" =
      .ok ⟨[0xFF, 13, 10, 77, 32, 48, 10], -7⟩ :=
  readCapture_file (by decide : shortMarker.validate = .ok ())
    ⟨[0xFF, 13, 10, 77, 32, 48, 10], -7⟩ (by decide)
    (.inl ⟨Utf8.encode "\x1b[?2004l", by decide, by decide, by decide⟩) (by decide)

end PaneRunner.Tmux
