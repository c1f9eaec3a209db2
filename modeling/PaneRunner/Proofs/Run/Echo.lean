import PaneRunner.Proofs.Run.Outcome

/-
  What the echo of the typed line does to a capture. Only the first line of a file is taken for the
  echo. `readCapture_file_echo`: whatever the echo, the exit code is read back and the output comes
  last; in front of it stands what `leaked` says, which is nothing exactly if the echo is one line.
  A typed line has a newline exactly if an argument has one (`newline_mem_commandLine_iff`), so
  `readCapture_transcript` says when the output comes back alone.
-/
namespace PaneRunner.Tmux

open Text

/-! ## Lines of the echo -/

/-- The lines of the echo come first in a file, the last of them with the carriage return that ends
the echo. -/
theorem fileLines_echo (echo rest : Bytes) :
    ∃ above last, Exec.fileLines (echo ++ [13, 10] ++ rest) =
        above ++ (last ++ [13]) :: Exec.fileLines rest ∧
      (above = [] ↔ 10 ∉ echo) := by
  -- an echo with a newline has a shorter one behind its first line
  induction hn : echo.length using Nat.strongRecOn generalizing echo with
  | ind n ih =>
    by_cases h : 10 ∈ echo
    · obtain ⟨row, more, rfl, hrow⟩ := List.eq_append_cons_of_mem h
      have hshort : more.length < n := by
        rw [← hn, List.length_append, List.length_cons]
        omega
      obtain ⟨above, last, hlines, -⟩ := ih _ hshort more rfl
      refine ⟨row :: above, last, ?_, by simp⟩
      have hfirst := fileLines_line hrow (more ++ [13, 10] ++ rest)
      rw [hlines] at hfirst
      simpa using hfirst
    · refine ⟨[], echo, ?_, by simp [h]⟩
      have hfirst := fileLines_line (l := echo ++ [13]) (by simpa using h) rest
      simpa using hfirst

theorem joinWith_outLines (entered stdout : Bytes) :
    joinWith [10] (Capture.outLines entered stdout) = entered ++ stdout := by
  rw [Capture.outLines, joinWith_modifyHead _ (pieces_ne_nil _ _), joinWith_pieces]

theorem outLines_ne_nil (entered stdout : Bytes) : Capture.outLines entered stdout ≠ [] := by
  obtain ⟨p, ps, hp⟩ := List.exists_cons_of_ne_nil (pieces_ne_nil 10 stdout)
  rw [Capture.outLines, hp, List.modifyHead_cons]
  exact List.cons_ne_nil _ _

/-! ## Files with any echo -/

section File

variable {marker : String} (hm : IsMarker marker) {echo entered tail : Bytes} {c : Capture}

include hm

/-- The lines of a finished file behind its echo. -/
theorem fileLines_behind_echo (hentered : 10 ∉ entered) :
    Exec.fileLines (entered ++ cooked c.stdout ++ [13, 10] ++
        (Utf8.encode (markerLine marker c.code) ++ [13] ++ 10 :: tail)) =
      (Capture.outLines entered c.stdout).map (· ++ [13]) ++
        (Utf8.encode (markerLine marker c.code) ++ [13]) :: Exec.fileLines tail := by
  rw [← flatMap_outLines, fileLines_flatMap (newline_not_mem_outLines hentered),
    fileLines_markerLine hm]

/-- An echo of several lines stands in front of the output but for its first line. -/
theorem readCapture_long_echo (hecho : 10 ∈ echo) (hentered : 10 ∉ entered)
    (htail : ∀ l ∈ Exec.fileLines tail, ¬ Utf8.encode marker <+: l) :
    ∃ leaked, leaked ≠ [] ∧
      readCapture (Exec.fileLines (c.file marker echo entered tail)) marker =
        .ok { stdout := leaked ++ c.stdout, code := c.code } := by
  have hfile : c.file marker echo entered tail = echo ++ [13, 10] ++
      (entered ++ cooked c.stdout ++ [13, 10] ++
        (Utf8.encode (markerLine marker c.code) ++ [13] ++ 10 :: tail)) := by
    simp [Capture.file, Capture.upToCode, Capture.aboveMarker]
  obtain ⟨above, last, hlines, habove⟩ := fileLines_echo echo
    (entered ++ cooked c.stdout ++ [13, 10] ++
      (Utf8.encode (markerLine marker c.code) ++ [13] ++ 10 :: tail))
  obtain ⟨row, above, rfl⟩ := List.exists_cons_of_ne_nil fun h => habove.1 h hecho
  have hmarked : isMarkerLine marker (Utf8.encode (markerLine marker c.code) ++ [13]) = true :=
    (isMarkerLine_iff hm).2 ((marker_isPrefix_markerLine _ _).trans (List.prefix_append _ _))
  have hbelow : ∀ l ∈ Exec.fileLines tail, isMarkerLine marker l = false :=
    fun l hl => (isMarkerLine_eq_false hm).2 (htail l hl)
  have hlayout : Exec.fileLines (c.file marker echo entered tail) =
      row :: ((above ++ [last ++ [13]] ++ (Capture.outLines entered c.stdout).map (· ++ [13])) ++
        (Utf8.encode (markerLine marker c.code) ++ [13]) :: Exec.fileLines tail) := by
    rw [hfile, hlines, fileLines_behind_echo hm hentered]
    simp
  have hout : (above ++ [last ++ [13]] ++ (Capture.outLines entered c.stdout).map
        (· ++ [13])).map stripReturn =
      (above.map stripReturn ++ [last]) ++ Capture.outLines entered c.stdout := by
    rw [List.map_append, List.map_append, map_stripReturn, List.map_singleton, stripReturn_append]
  obtain ⟨first, more, hfirst⟩ : ∃ first more, above.map stripReturn ++ [last] = first :: more :=
    List.exists_cons_of_ne_nil (by simp)
  refine ⟨joinWith [10] (afterReturn first :: more) ++ [10] ++ entered, by simp, ?_⟩
  have hjoin := joinWith_append [10] (List.cons_ne_nil (afterReturn first) more)
    (outLines_ne_nil entered c.stdout)
  rw [joinWith_outLines, ← List.append_assoc] at hjoin
  rw [hlayout, readCapture_layout hmarked hbelow, stripReturn_append, Utf8.decode_encode, markerLine,
    exitCode_line, hout, hfirst]
  exact congrArg (fun s => Except.ok (Capture.mk s c.code)) hjoin

/-- Whatever the echo, the code is read back and the output comes last; it comes alone exactly if
the echo is one line. -/
theorem readCapture_file_echo (echo : Bytes) (hentered : Removable entered c.stdout)
    (htail : ∀ l ∈ Exec.fileLines tail, ¬ Utf8.encode marker <+: l) :
    ∃ leaked, readCapture (Exec.fileLines (c.file marker echo entered tail)) marker =
        .ok { stdout := leaked ++ c.stdout, code := c.code } ∧
      (leaked = [] ↔ 10 ∉ echo) := by
  by_cases hecho : 10 ∈ echo
  · obtain ⟨leaked, hne, hread⟩ := readCapture_long_echo hm hecho hentered.newline_not_mem htail
    exact ⟨leaked, hread, by simp [hne, hecho]⟩
  · obtain ⟨first, more, hlines, hjoin⟩ := hentered.joinWith_outLines
    refine ⟨[], ?_, by simp [hecho]⟩
    rw [readCapture_lines hm hecho hentered.newline_not_mem htail hlines, hjoin, List.nil_append]

end File

/-! ## Newlines in a typed line -/

theorem mem_writeWord_of_mem {c : Char} {cs : List Char} (h : c ∈ cs) : c ∈ Shell.writeWord cs := by
  unfold Shell.writeWord Shell.quoteWord
  split
  · exact h
  · have hquoted : c ∈ cs.flatMap Shell.quoteChar := by
      refine List.mem_flatMap.2 ⟨c, h, ?_⟩
      unfold Shell.quoteChar
      split <;> simp [*]
    exact List.mem_cons_of_mem _ (List.mem_append_left _ hquoted)

/-- A typed line has a newline exactly if an argument has one. -/
theorem newline_mem_commandLine_iff {marker : String} (hm : IsMarker marker) (argv : List String) :
    '\n' ∈ (commandLine argv marker).toList ↔ ∃ a ∈ argv, '\n' ∈ a.toList := by
  constructor
  · intro h
    by_contra hnone
    exact newline_not_mem_commandLine (fun a ha hn => hnone ⟨a, ha, hn⟩)
      (Simulation.newline_not_mem_of_isMarker hm) h
  · rintro ⟨a, ha, hn⟩
    have hword : Shell.writeWord a.toList ∈ (argv.map String.toList).map Shell.writeWord :=
      List.mem_map_of_mem (List.mem_map_of_mem ha)
    have hjoin := mem_joinWith_of_mem [' '] hword (mem_writeWord_of_mem hn)
    rw [commandLine_eq, String.toList_append, Shell.toList_join]
    exact List.mem_append_left _ hjoin

/-- From the shell's transcript of any command line the code is read back, and an output that ends
in the command's own. It is the command's own output exactly if no argument has a newline. -/
theorem readCapture_transcript {cfg : Config} (hcfg : cfg.validate = .ok ())
    (hdollar : cfg.run.marker ≠ "$") (argv : List String) (stdout : String) (code : Int32) :
    ∃ leaked,
      readCapture (Exec.fileLines (Utf8.encode (Simulation.Server.transcript
          (commandLine argv cfg.run.marker) stdout
          (cfg.run.marker ++ " " ++ Decimal.ofInt code.toInt)))) cfg.run.marker =
        .ok { stdout := leaked ++ Utf8.encode stdout, code } ∧
      (leaked = [] ↔ ∀ a ∈ argv, '\n' ∉ a.toList) := by
  have hm := Config.isMarker_of_validate hcfg
  obtain ⟨leaked, hread, hleaked⟩ := readCapture_file_echo hm (c := ⟨Utf8.encode stdout, code⟩)
    (Utf8.encode (commandLine argv cfg.run.marker)) (removable_enterControl _)
    (Simulation.fileLines_tail hm hdollar)
  refine ⟨leaked, by rw [encode_transcript, hread], hleaked.trans ?_⟩
  rw [Utf8.newline_mem_encode_iff, newline_mem_commandLine_iff hm]
  simp only [not_exists, not_and]

/-- Quotes, semicolons and dollar signs in an argument do not show in the output. -/
theorem readCapture_transcript_one_line :
    readCapture (Exec.fileLines (Utf8.encode (Simulation.Server.transcript
        (commandLine ["echo", "-n", "it's; $5\r"] "M") "it's; $5\r" ("M" ++ " " ++ Decimal.ofInt 3))))
        "M" =
      .ok { stdout := Utf8.encode "it's; $5\r", code := 3 } := by
  have hvalid : shortMarker.validate = .ok () := by decide
  obtain ⟨leaked, hread, hleaked⟩ := readCapture_transcript hvalid (by decide)
    ["echo", "-n", "it's; $5\r"] "it's; $5\r" 3
  rw [hleaked.2 (by decide), List.nil_append] at hread
  exact hread

/-- The second line of an argument and the marker command come back as output. -/
theorem readCapture_transcript_two_lines :
    readCapture (Exec.fileLines (Utf8.encode (Simulation.Server.transcript
        (commandLine ["echo", "a\nb"] defaultMarker) "a\nb\n" (defaultMarker ++ " 0"))))
        defaultMarker =
      .ok ⟨Utf8.encode
        "b'; printf '\\n%s %s\\n' 'TMUXDRIVE_COMMAND_EXIT_CODE' \"$?\"\n\x1b[?2004l\ra\nb\n", 0⟩ ∧
    readCapture (Exec.fileLines (Utf8.encode (Simulation.Server.transcript
        (commandLine ["echo", "a\nb"] defaultMarker) "a\nb\n" (defaultMarker ++ " 0"))))
        defaultMarker ≠
      .ok ⟨Utf8.encode "a\nb\n", 0⟩ := by
  decide +kernel

end PaneRunner.Tmux
