import PaneRunner.Proofs.Shell.Quoting
import PaneRunner.Proofs.Text.Numerals
import PaneRunner.Proofs.Text.Pieces
import PaneRunner.Simulation.Server
import PaneRunner.Tmux.Keys

/-
  The typed line on its way into a window. It is no key, so it travels as bytes, and what arrives is
  what was typed (`typedText_hexBytes`). The window takes it apart at its first marker command
  (`splitOnce?_commandLine`), and finds the marker behind it (`words_marked`).
-/
namespace PaneRunner.Tmux

open Text

/-- What stands behind the marker command in the typed line. -/
def marked (marker : String) : String := Shell.quote marker ++ " \"$?\""

theorem commandLine_eq (argv : List String) (marker : String) :
    commandLine argv marker = Shell.join argv ++ (markerCommand ++ marked marker) := by
  simp only [commandLine, marked, String.append_assoc]

/-- Opening a pipe and closing it are not the same. -/
theorem appendTo_ne_empty (path : String) : appendTo path ≠ "" := by
  intro h
  have hlist := congrArg String.toList h
  simp [appendTo] at hlist

/-- The command does not run into the marker command from the left. -/
theorem splitOnce?_commandLine (argv : List String) (marker : String) :
    splitOnce? (commandLine argv marker) markerCommand =
      some (Shell.join argv, marked marker) := by
  refine splitOnce?_of_cutAt? ?_
  rw [commandLine_eq, String.toList_append, String.toList_append]
  refine cutAt?_append fun l₁ l₂ hsplit hne hp => ?_
  have hmarker : markerCommand.toList =
      ';' :: (" printf ".toList ++ ['\x27', '\x5c', 'n']) ++ "%s %s\\n' ".toList := by decide
  cases l₂ with
  | nil => exact hne rfl
  | cons c l₂ =>
    rw [hmarker, List.cons_append, List.cons_append, List.cons_append, List.cons_prefix_cons] at hp
    obtain ⟨rfl, hp⟩ := hp
    rw [Shell.toList_join] at hsplit
    exact (Shell.inQuotes_of_joinWith _ hsplit).not_isPrefix (by decide) (by decide) _
      ((List.prefix_append _ _).trans hp)

theorem words_marked (marker : String) : Shell.words (marked marker) = [marker, "$?"] := by
  rw [marked, show (" \"$?\"" : String) = " " ++ "\"$?\"" from rfl, Shell.words_quote_append]
  rw [show Shell.words "\"$?\"" = ["$?"] by decide]

/-- The typed line is no key. -/
theorem isKey_commandLine (argv : List String) (marker : String) :
    isKey (commandLine argv marker) = false := by
  have hmem : ';' ∈ (commandLine argv marker).toList := by
    rw [commandLine_eq, String.toList_append, String.toList_append]
    exact List.mem_append_right _ (List.mem_append_left _ (by decide))
  have hlong : 3 < (commandLine argv marker).toList.length := by
    have hmarker : 3 < markerCommand.toList.length := by decide
    rw [commandLine_eq, String.toList_append, String.toList_append, List.length_append,
      List.length_append]
    omega
  have hnames : ∀ k ∈ namedKeys, ';' ∉ k.toList := by decide
  rw [isKey, Bool.or_eq_false_iff]
  constructor
  · rw [← Bool.not_eq_true, List.contains_iff_mem]
    exact fun h => hnames _ h hmem
  · unfold isChord
    split
    · rename_i hlist
      rw [hlist] at hlong
      exact absurd hlong (Nat.lt_irrefl 3)
    · rfl

/-- A token that names a key is passed on by that name. -/
theorem keyArgs_of_key {token : String} (h : isKey token = true) (target : String) :
    keyArgs target token = ["send-keys", "-t", target, token] := by
  rw [keyArgs, h]
  rfl

/-- Any other token travels as its bytes. -/
theorem keyArgs_of_text {token : String} (h : isKey token = false) (target : String) :
    keyArgs target token = "send-keys" :: "-t" :: target :: "-H" :: hexBytes token := by
  rw [keyArgs, h]
  rfl

/-- What is typed as bytes arrives as it was. -/
theorem typedText_hexBytes (s : String) :
    Simulation.Server.typedText (hexBytes s) = s := by
  have hbytes : ((Utf8.encode s).map Hex.byte).filterMap Hex.byte? = Utf8.encode s := by
    rw [List.filterMap_map, show Hex.byte? ∘ Hex.byte = some from funext Hex.byte?_byte,
      List.filterMap_some]
  rw [Simulation.Server.typedText, hexBytes, hbytes, Utf8.decode_encode]

/-! ## Characters of the typed line -/

theorem mem_quoteWord {c : Char} {cs : List Char} (h : c ∈ Shell.quoteWord cs) :
    c ∈ cs ∨ c = '\x27' ∨ c = '\x5c' := by
  rw [Shell.quoteWord, List.mem_cons, List.mem_append, List.mem_flatMap, List.mem_singleton] at h
  rcases h with rfl | ⟨d, hd, hc⟩ | rfl
  · exact Or.inr (Or.inl rfl)
  · unfold Shell.quoteChar at hc
    split at hc
    · simp only [List.mem_cons, List.not_mem_nil, or_false] at hc
      rcases hc with h | h | h | h <;> simp [h]
    · exact Or.inl (List.mem_singleton.1 hc ▸ hd)
  · exact Or.inr (Or.inl rfl)

theorem mem_writeWord {c : Char} {cs : List Char} (h : c ∈ Shell.writeWord cs) :
    c ∈ cs ∨ c = '\x27' ∨ c = '\x5c' := by
  unfold Shell.writeWord at h
  split at h
  · exact Or.inl h
  · exact mem_quoteWord h

theorem newline_not_mem_join {argv : List String} (h : ∀ a ∈ argv, '\n' ∉ a.toList) :
    '\n' ∉ (Shell.join argv).toList := by
  intro hmem
  rw [Shell.toList_join] at hmem
  rcases mem_joinWith hmem with hc | ⟨w, hw, hc⟩
  · exact absurd hc (by decide)
  · obtain ⟨cs, hcs, rfl⟩ := List.mem_map.1 hw
    obtain ⟨a, ha, rfl⟩ := List.mem_map.1 hcs
    rcases mem_writeWord hc with hc | hc | hc
    · exact h a ha hc
    · exact absurd hc (by decide)
    · exact absurd hc (by decide)

/-- A command without newlines is typed in one line. -/
theorem newline_not_mem_commandLine {argv : List String} (h : ∀ a ∈ argv, '\n' ∉ a.toList)
    {marker : String} (hm : '\n' ∉ marker.toList) : '\n' ∉ (commandLine argv marker).toList := by
  have hquote : '\n' ∉ (Shell.quote marker).toList := by
    intro hmem
    rw [Shell.quote, String.toList_ofList] at hmem
    rcases mem_quoteWord hmem with hc | hc | hc
    · exact hm hc
    · exact absurd hc (by decide)
    · exact absurd hc (by decide)
  rw [commandLine_eq, marked]
  simp only [String.toList_append, List.mem_append, not_or]
  exact ⟨newline_not_mem_join h, by decide, hquote, by decide⟩

/-- The typed line ends in a quote. -/
theorem getLast?_commandLine (argv : List String) (marker : String) :
    (commandLine argv marker).toList.getLast? = some '"' := by
  have hlist : (commandLine argv marker).toList =
      (Shell.join argv ++ (markerCommand ++ (Shell.quote marker ++ " \"$?"))).toList ++ ['"'] := by
    rw [commandLine_eq, marked]
    simp [String.toList_append]
  rw [hlist, List.getLast?_concat]

end PaneRunner.Tmux
