import PaneRunner.Proofs.Capture.RoundTrip
import PaneRunner.Simulation.Server

/-
  The capture of the simulated shell is the capture file of a finished command
  (`encode_transcript`): what it prints when the line is entered ends in its only carriage return,
  so it can be told from the output.
-/
namespace PaneRunner.Tmux

open Text

/-- What the shell prints when a line is entered. -/
def enterControl : String := "\x1b[?2004l\r"

theorem removable_enterControl (stdout : Bytes) : Removable (Utf8.encode enterControl) stdout :=
  Or.inl ⟨Utf8.encode "\x1b[?2004l", by decide, by decide, by decide⟩

theorem cooked_encodeChar {c : Char} (h : c ≠ '\n') :
    cooked (String.utf8EncodeChar c) = String.utf8EncodeChar c := by
  have hfree : ∀ b ∈ String.utf8EncodeChar c, (if b = 10 then [13, 10] else [b]) = [b] := by
    intro b hb
    refine if_neg ?_
    rintro rfl
    have hc := (Utf8.mem_utf8EncodeChar_ascii (b := 10) (by decide)).1 hb
    exact h (by rw [← Char.ofNat_toNat c, hc]; rfl)
  rw [cooked, List.flatMap_congr hfree, List.flatMap_singleton']

/-- Newlines are cooked before or after encoding. -/
theorem cooked_encode (s : String) :
    cooked (Utf8.encode s) =
      Utf8.encode (.ofList (s.toList.flatMap fun c => if c = '\n' then ['\r', '\n'] else [c])) := by
  rw [Utf8.encode_ofList, Utf8.encode, cooked, List.flatMap_assoc, List.flatMap_assoc]
  refine List.flatMap_congr fun c _ => ?_
  by_cases hc : c = '\n'
  · subst hc
    decide
  · rw [if_neg hc, List.flatMap_singleton]
    exact cooked_encodeChar hc

/-- The shell's capture is the capture file of its outcome. -/
theorem encode_transcript (typed stdout marker : String) (code : Int32) :
    Utf8.encode (Simulation.Server.transcript typed stdout
        (marker ++ " " ++ Decimal.ofInt code.toInt)) =
      Capture.file marker (Utf8.encode typed) (Utf8.encode enterControl)
        ⟨Utf8.encode stdout, code⟩ (Utf8.encode "$ ") := by
  have hsplit : Simulation.Server.transcript typed stdout
        (marker ++ " " ++ Decimal.ofInt code.toInt) =
      typed ++ ("\r\n" ++ (enterControl ++
        (.ofList (stdout.toList.flatMap fun c => if c = '\n' then ['\r', '\n'] else [c]) ++
          ("\r\n" ++ (markerLine marker code ++ ("\r\n" ++ "$ ")))))) := by
    simp only [Simulation.Server.transcript, enterControl, markerLine, ← String.toList_inj,
      String.toList_append, List.append_assoc]
    rfl
  rw [hsplit]
  simp only [Utf8.encode_append, Capture.file, Capture.upToCode, Capture.aboveMarker,
    List.append_assoc, cooked_encode, show Utf8.encode "\r\n" = [13, 10] by decide]

end PaneRunner.Tmux
