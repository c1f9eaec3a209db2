/-
  Decimal numbers as text: `digits` writes, `unsigned?` and `signed?` read. A reader takes an
  optional sign and at least one digit, and refuses a value outside its range.
-/
namespace PaneRunner.Text.Decimal

/-- The character of a digit below ten. -/
def digit (n : Nat) : Char := .ofNat (48 + n)

/-- The decimal digits of a number, without leading zeros. -/
def digits (n : Nat) : List Char :=
  if n < 10 then [digit n] else digits (n / 10) ++ [digit (n % 10)]

/-- The number that digits stand for. -/
def value (cs : List Char) : Nat := cs.foldl (fun v c => 10 * v + (c.toNat - 48)) 0

/-- One digit or more, and nothing else. -/
def isNumeral (cs : List Char) : Bool := !cs.isEmpty && cs.all Char.isDigit

/-- A number below `bound`, with an optional plus sign. -/
def unsigned? (bound : Nat) (cs : List Char) : Option Nat :=
  let ds := match cs with
    | '+' :: ds => ds
    | ds => ds
  if isNumeral ds && decide (value ds < bound) then some (value ds) else none

/-- A number from `-bound` to `bound - 1`, with an optional sign. -/
def signed? (bound : Nat) (cs : List Char) : Option Int :=
  match cs with
  | '-' :: ds => if isNumeral ds && decide (value ds ≤ bound) then some (-(value ds : Int)) else none
  | ds => (unsigned? bound ds).map Int.ofNat

/-- A number as text. -/
def ofNat (n : Nat) : String := .ofList (digits n)

/-- A number as text, with a minus sign if it is negative. -/
def ofInt : Int → String
  | .ofNat n => ofNat n
  | .negSucc n => "-" ++ ofNat (n + 1)

/-- A number as text with zeros in front, at least `width` digits. -/
def padded (width n : Nat) : String :=
  let ds := digits n
  .ofList (List.replicate (width - ds.length) '0' ++ ds)

end PaneRunner.Text.Decimal
