import PaneRunner.Text.Utf8

/-
  The UTF-8 forms of the characters from one to another, as sequences of byte ranges: a text of one
  character is in the range if, for some sequence, every byte is in the range at its place. Behind
  its first byte a character is a number of base 64, so ranges of such numbers are what is cut.
-/
namespace PaneRunner.Text.Utf8Ranges

/-- A range of bytes. -/
structure ByteRange where
  low : Nat
  high : Nat
  deriving DecidableEq, Repr

/-- The numbers from `low` to `high`, as ranges for a leading digit and for `k` digits of base 64
after it; the sequences stand in ascending order. -/
def digitRanges : Nat → Nat → Nat → List (List ByteRange)
  | 0, low, high => [[⟨low, high⟩]]
  | k + 1, low, high =>
    let size := 64 ^ (k + 1)
    let first := low / size
    let last := high / size
    let under (lead low high : Nat) := (digitRanges k low high).map (⟨lead, lead⟩ :: ·)
    if first = last then under first (low % size) (high % size)
    else
      let whole (first last : Nat) : List (List ByteRange) :=
        if first ≤ last then [⟨first, last⟩ :: List.replicate (k + 1) ⟨0, 63⟩] else []
      let startsWhole := low % size = 0
      let endsWhole := high % size = size - 1
      (if startsWhole then [] else under first (low % size) (size - 1)) ++
      whole (if startsWhole then first else first + 1) (if endsWhole then last else last - 1) ++
      (if endsWhole then [] else under last 0 (high % size))

/-- A form of characters: the first and the last of them, how many bytes follow the first byte,
and what is added to it. -/
structure Form where
  low : Nat
  high : Nat
  tail : Nat
  lead : Nat

/-- The forms, which differ in their number of bytes. -/
def forms : List Form :=
  [⟨0, 0x7F, 0, 0⟩, ⟨0x80, 0x7FF, 1, 0xC0⟩, ⟨0x800, 0xFFFF, 2, 0xE0⟩, ⟨0x10000, 0x10FFFF, 3, 0xF0⟩]

/-- The bytes of a sequence of digits. -/
def Form.bytes (f : Form) : List ByteRange → List ByteRange
  | [] => []
  | r :: rs => ⟨f.lead + r.low, f.lead + r.high⟩ :: rs.map fun r => ⟨0x80 + r.low, 0x80 + r.high⟩

/-- The byte sequences of the characters from `low` to `high`. -/
def sequences (low high : Nat) : List (List ByteRange) :=
  forms.flatMap fun f =>
    let low := max low f.low
    let high := min high f.high
    if low ≤ high then (digitRanges f.tail low high).map f.bytes else []

end PaneRunner.Text.Utf8Ranges
