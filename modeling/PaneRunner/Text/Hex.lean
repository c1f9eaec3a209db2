import PaneRunner.Text.Decimal

/-
  Hexadecimal text. `ofNat` writes a number and `byte` the two digits of a byte, in lower case;
  `byte?` reads any number of digits in either case, with an optional plus sign, up to the value
  255.
-/
namespace PaneRunner.Text.Hex

/-- A hexadecimal digit in lower case. -/
def digit (n : Nat) : Char := if n < 10 then .ofNat (48 + n) else .ofNat (87 + n)

/-- A number in as few digits as it needs. -/
def ofNat (n : Nat) : List Char :=
  if n < 16 then [digit n] else ofNat (n / 16) ++ [digit (n % 16)]

/-- A byte as two digits. -/
def byte (b : UInt8) : String := .ofList [digit (b.toNat / 16), digit (b.toNat % 16)]

/-- The value of a hexadecimal digit. -/
def digit? (c : Char) : Option Nat :=
  if '0' ≤ c ∧ c ≤ '9' then some (c.toNat - 48)
  else if 'a' ≤ c ∧ c ≤ 'f' then some (c.toNat - 87)
  else if 'A' ≤ c ∧ c ≤ 'F' then some (c.toNat - 55)
  else none

/-- The value of hexadecimal digits, one at least. -/
def value? : List Char → Option Nat
  | [] => none
  | cs => cs.foldlM (fun v c => (digit? c).map (16 * v + ·)) 0

/-- The byte that a hexadecimal number stands for. -/
def byte? (s : String) : Option UInt8 :=
  let ds := match s.toList with
    | '+' :: ds => ds
    | ds => ds
  match value? ds with
  | some n => if n < 256 then some n.toUInt8 else none
  | none => none

end PaneRunner.Text.Hex
