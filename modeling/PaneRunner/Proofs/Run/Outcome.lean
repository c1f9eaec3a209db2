import PaneRunner.Proofs.Capture.Transcript
import PaneRunner.Proofs.Run.Steps

/-
  What a command comes to in a window. `printed` is what the shell prints, `shown` the lines that
  the pane gets. The capture is read back as the output and the code (`readCapture_captured`), and
  the pane then shows the marker (`marked_shown`). Before that a pane shows a marker only if one
  stands right above the prompt (`marked_typed_iff`).
-/
namespace PaneRunner.Simulation

open Text Server

/-- What the shell prints for a command. -/
def printed (argv : List String) : String := .ofList (Shell.run (PaneRunner.Shell.join argv).toList)

/-- The lines that a pane gets from a command that has ended. -/
def shown (argv : List String) (marker : String) (code : Int32) : List String :=
  (pieces '\n' (printed argv).toList).map .ofList ++ [Tmux.markerLine marker code, "$ "]

/-- What a pipe gets from a command that has ended. -/
def captured (argv : List String) (marker : String) (code : Int32) : Bytes :=
  Utf8.encode (transcript (Tmux.commandLine argv marker) (printed argv)
    (marker ++ " " ++ Decimal.ofInt code.toInt))

/-- What is under way when the command line has been entered. -/
def underway (server : Server) (address : String) (argv : List String) (marker : String) :
    Pending where
  address := address
  pollsLeft := server.completionDelay
  paneLines := shown argv marker server.exitCode
  capture := transcript (Tmux.commandLine argv marker) (printed argv)
    (marker ++ " " ++ Decimal.ofInt server.exitCode.toInt)

theorem outcome_commandLine {server : Server} (h : server.captureOverride = none)
    (address : String) (argv : List String) (marker : String) :
    server.outcome address (Tmux.commandLine argv marker) (PaneRunner.Shell.join argv)
      (Tmux.marked marker) = underway server address argv marker := by
  rw [outcome, h, Tmux.words_marked, List.headD_cons]
  simp only [underway, shown, printed, Tmux.markerLine, String.append_assoc]

variable {marker : String} {argv : List String} (code : Int32)

theorem newline_not_mem_of_isMarker (hm : Tmux.IsMarker marker) : '\n' ∉ marker.toList := by
  intro h
  exact absurd (hm.no_blank _ h) (by decide)

/-! ## The capture -/

/-- The lines of a capture. -/
theorem fileLines_tail (hm : Tmux.IsMarker marker) (hdollar : marker ≠ "$") :
    ∀ l ∈ Exec.fileLines (Utf8.encode "$ "), ¬ Utf8.encode marker <+: l := by
  have hlines : Exec.fileLines (Utf8.encode "$ ") = [Utf8.encode "$ "] := by decide
  intro l hl
  rw [hlines, List.mem_singleton] at hl
  rw [hl, Utf8.encode_isPrefix_iff]
  have h := Tmux.not_isPrefix_prompt hm hdollar ""
  rwa [String.append_empty] at h

/-- The output and the code are read back from the capture. -/
theorem readCapture_captured (hm : Tmux.IsMarker marker) (hdollar : marker ≠ "$")
    (hargv : ∀ a ∈ argv, '\n' ∉ a.toList) :
    Tmux.readCapture (Exec.fileLines (captured argv marker code)) marker =
      .ok ⟨Utf8.encode (printed argv), code⟩ := by
  have hremovable := Tmux.removable_enterControl (Utf8.encode (printed argv))
  have hecho := mt Utf8.newline_mem_encode_iff.1
    (Tmux.newline_not_mem_commandLine hargv (newline_not_mem_of_isMarker hm))
  obtain ⟨first, more, hlines, hjoin⟩ := hremovable.joinWith_outLines
  rw [captured, Tmux.encode_transcript, Tmux.readCapture_lines hm hecho hremovable.newline_not_mem
    (fileLines_tail hm hdollar) hlines, hjoin]

/-- The capture holds the marker. -/
theorem holdsMarker_captured (hm : Tmux.IsMarker marker)
    (hargv : ∀ a ∈ argv, '\n' ∉ a.toList) :
    Tmux.holdsMarker (Exec.fileLines (captured argv marker code)) marker = true := by
  have hecho := mt Utf8.newline_mem_encode_iff.1
    (Tmux.newline_not_mem_commandLine hargv (newline_not_mem_of_isMarker hm))
  rw [captured, Tmux.encode_transcript, Tmux.file_eq]
  exact Tmux.holdsMarker_of_marker hm hecho
    (Tmux.removable_enterControl (Utf8.encode (printed argv))).newline_not_mem _ _

/-! ## The pane -/

theorem newline_not_mem_markerLine (hm : Tmux.IsMarker marker) :
    '\n' ∉ (Tmux.markerLine marker code).toList := by
  rw [Tmux.markerLine, String.toList_append, String.toList_append, List.mem_append, List.mem_append]
  rintro (h | h | h)
  · exact newline_not_mem_of_isMarker hm h
  · exact absurd h (by decide)
  · have := Decimal.toNat_of_mem_ofInt h
    exact absurd this (by decide)

theorem newline_not_mem_shown (hm : Tmux.IsMarker marker) (argv : List String) :
    ∀ l ∈ shown argv marker code, '\n' ∉ l.toList := by
  intro l hl
  rw [shown, List.mem_append] at hl
  rcases hl with hl | hl
  · obtain ⟨p, hp, rfl⟩ := List.mem_map.1 hl
    rw [String.toList_ofList]
    exact not_mem_of_mem_pieces hp
  · rcases List.mem_cons.1 hl with rfl | hl
    · exact newline_not_mem_markerLine code hm
    · rw [List.mem_singleton.1 hl]
      decide

theorem append_shown (pane argv : List String) (marker : String) (code : Int32) :
    pane ++ shown argv marker code =
      pane ++ (pieces '\n' (printed argv).toList).map .ofList ++ [Tmux.markerLine marker code] ++
        ["$ "] := by
  simp [shown]

/-- The last line is a prompt, -/
theorem getLast?_append_shown (pane argv : List String) (marker : String) (code : Int32) :
    (pane ++ shown argv marker code).getLast? = some "$ " := by
  rw [append_shown, List.getLast?_concat]

/-- and the marker stands right above it. -/
theorem getLast?_dropLast_append_shown (pane argv : List String) (marker : String) (code : Int32) :
    (pane ++ shown argv marker code).dropLast.getLast? = some (Tmux.markerLine marker code) := by
  rw [append_shown, List.dropLast_concat, List.getLast?_concat]

theorem isPrefix_markerLine (marker : String) (code : Int32) :
    marker.toList <+: (Tmux.markerLine marker code).toList := by
  rw [Tmux.markerLine, String.toList_append]
  exact List.prefix_append _ _

/-- A pane shows the marker once the command has ended. -/
theorem marked_shown (hm : Tmux.IsMarker marker) (argv : List String) {pane : List String}
    (hpane : ∀ l ∈ pane, '\n' ∉ l.toList) :
    Scene.Marked (pane ++ shown argv marker code) marker := by
  have hlast : Tmux.ShowsLast (pane ++ shown argv marker code) "$ " := by
    refine ⟨getLast?_append_shown _ _ _ _, fun l hl => ?_, by decide, by decide⟩
    rcases List.mem_append.1 hl with hl | hl
    · exact hpane l hl
    · exact newline_not_mem_shown code hm argv l hl
  exact (Tmux.showsMarker_iff hm hlast).2 (Or.inr ⟨Tmux.markerLine marker code,
    getLast?_dropLast_append_shown _ _ _ _, isPrefix_markerLine _ _⟩)

theorem newline_not_mem_typed (hm : Tmux.IsMarker marker) (hargv : ∀ a ∈ argv, '\n' ∉ a.toList)
    {above : List String} (habove : ∀ l ∈ above, '\n' ∉ l.toList) :
    ∀ l ∈ above ++ ["$ " ++ Tmux.commandLine argv marker], '\n' ∉ l.toList := by
  intro l hl
  rcases List.mem_append.1 hl with hl | hl
  · exact habove l hl
  · rw [List.mem_singleton.1 hl, String.toList_append, List.mem_append, not_or]
    exact ⟨by decide, Tmux.newline_not_mem_commandLine hargv (newline_not_mem_of_isMarker hm)⟩

/-- While the command runs, only a marker right above the prompt shows. -/
theorem marked_typed_iff (hm : Tmux.IsMarker marker) (hdollar : marker ≠ "$")
    (hargv : ∀ a ∈ argv, '\n' ∉ a.toList) {above : List String}
    (habove : ∀ l ∈ above, '\n' ∉ l.toList) :
    Scene.Marked (above ++ ["$ " ++ Tmux.commandLine argv marker]) marker ↔
      ∃ l, above.getLast? = some l ∧ marker.toList <+: l.toList := by
  have hend : ("$ " ++ Tmux.commandLine argv marker).toList.getLast? = some '"' := by
    rw [String.toList_append, List.getLast?_append, Tmux.getLast?_commandLine, Option.some_or]
  have hlast : Tmux.ShowsLast (above ++ ["$ " ++ Tmux.commandLine argv marker])
      ("$ " ++ Tmux.commandLine argv marker) := by
    refine ⟨by rw [List.getLast?_concat], newline_not_mem_typed hm hargv habove,
      by rw [hend]; decide, ?_⟩
    rw [isBlank, List.all_eq_false]
    exact ⟨'"', List.mem_of_getLast? hend, by decide⟩
  rw [Scene.Marked, Tmux.showsMarker_iff hm hlast, List.dropLast_concat]
  exact or_iff_right (Tmux.not_isPrefix_prompt hm hdollar _)

end PaneRunner.Simulation
