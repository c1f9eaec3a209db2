/-
  Bytes and text. `decode` reads every byte sequence: where UTF-8 cannot go on, the longest part
  that could have started a character is a fault, and a fault is read as U+FFFD. `decode?`
  refuses faults.
-/
namespace PaneRunner

/-- A byte sequence. -/
abbrev Bytes := List UInt8

namespace Text.Utf8

/-- The UTF-8 bytes of a text. -/
def encode (s : String) : Bytes := s.toList.flatMap String.utf8EncodeChar

/-- What a first byte announces: how many bytes follow it, and the range of the second. -/
inductive Lead where
  | ascii
  | two
  | three (low high : UInt8)
  | four (low high : UInt8)
  | never

/-- The kind of a first byte. The narrowed ranges rule out overlong forms, surrogates and values
above U+10FFFF. -/
def lead (a : UInt8) : Lead :=
  if a < 0x80 then .ascii
  else if a < 0xC2 then .never
  else if a < 0xE0 then .two
  else if a = 0xE0 then .three 0xA0 0xBF
  else if a = 0xED then .three 0x80 0x9F
  else if a < 0xF0 then .three 0x80 0xBF
  else if a = 0xF0 then .four 0x90 0xBF
  else if a < 0xF4 then .four 0x80 0xBF
  else if a = 0xF4 then .four 0x80 0x8F
  else .never

/-- The payload of a continuation byte. -/
def low6 (b : UInt8) : Nat := b.toNat % 64

/-- The characters of a byte sequence, and the bytes of every fault in it. -/
def scan : Bytes → List (Except Bytes Char)
  | [] => []
  | a :: r =>
    match lead a with
    | .ascii => .ok (.ofNat a.toNat) :: scan r
    | .never => .error [a] :: scan r
    | .two =>
      match r with
      | [] => [.error [a]]
      | b :: r' =>
        if 0x80 ≤ b ∧ b ≤ 0xBF then .ok (.ofNat (a.toNat % 32 * 64 + low6 b)) :: scan r'
        else .error [a] :: scan (b :: r')
    | .three low high =>
      match r with
      | [] => [.error [a]]
      | b :: r' =>
        if low ≤ b ∧ b ≤ high then
          match r' with
          | [] => [.error [a, b]]
          | c :: r'' =>
            if 0x80 ≤ c ∧ c ≤ 0xBF then
              .ok (.ofNat (a.toNat % 16 * 4096 + low6 b * 64 + low6 c)) :: scan r''
            else .error [a, b] :: scan (c :: r'')
        else .error [a] :: scan (b :: r')
    | .four low high =>
      match r with
      | [] => [.error [a]]
      | b :: r' =>
        if low ≤ b ∧ b ≤ high then
          match r' with
          | [] => [.error [a, b]]
          | c :: r'' =>
            if 0x80 ≤ c ∧ c ≤ 0xBF then
              match r'' with
              | [] => [.error [a, b, c]]
              | d :: r3 =>
                if 0x80 ≤ d ∧ d ≤ 0xBF then
                  .ok (.ofNat (a.toNat % 8 * 262144 + low6 b * 4096 + low6 c * 64 + low6 d)) ::
                    scan r3
                else .error [a, b, c] :: scan (d :: r3)
            else .error [a, b] :: scan (c :: r'')
        else .error [a] :: scan (b :: r')

/-- The text of any byte sequence, with U+FFFD for every fault. -/
def decode (bs : Bytes) : String := .ofList ((scan bs).map fun c => c.toOption.getD '\uFFFD')

/-- The text of a byte sequence without faults. -/
def decode? (bs : Bytes) : Option String := ((scan bs).mapM Except.toOption).map .ofList

end Text.Utf8

end PaneRunner
