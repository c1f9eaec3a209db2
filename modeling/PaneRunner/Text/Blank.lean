/-
  Blank characters and trimming. A character is blank when it has the Unicode property
  White_Space; a text is blank when all its characters are. `trimEnd_append_blank`: blank
  characters at the end of a text do not show after trimming.
-/
namespace PaneRunner.Text

/-- The Unicode property White_Space. -/
def isBlankChar (c : Char) : Bool :=
  let n := c.toNat
  (0x9 ≤ n && n ≤ 0xD) || n == 0x20 || n == 0x85 || n == 0xA0 || n == 0x1680 ||
    (0x2000 ≤ n && n ≤ 0x200A) || n == 0x2028 || n == 0x2029 || n == 0x202F || n == 0x205F ||
    n == 0x3000

/-- Without the blank characters at the start. -/
def trimStart (cs : List Char) : List Char := cs.dropWhile isBlankChar

/-- Without the blank characters at the end. -/
def trimEnd (cs : List Char) : List Char := (cs.reverse.dropWhile isBlankChar).reverse

/-- Without the blank characters at both ends. -/
def trim (s : String) : String := .ofList (trimEnd (trimStart s.toList))

/-- Nothing but blank characters. -/
def isBlank (s : String) : Bool := s.toList.all isBlankChar

theorem trimEnd_append_blank (cs v : List Char) (hv : v.all isBlankChar = true) :
    trimEnd (cs ++ v) = trimEnd cs := by
  unfold trimEnd
  rw [List.reverse_append, List.dropWhile_append_of_pos]
  simpa using hv

end PaneRunner.Text
