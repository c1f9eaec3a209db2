import PaneRunner.Text.Hex
import PaneRunner.Text.Search

/-
  The small parts of a TOML document: blanks, comments, strings, numbers and dates. Each scanner
  takes the characters still to read and gives those it left, or `none` where the document is
  malformed.
-/
namespace PaneRunner.Toml

/-- A scanner of an `α`. -/
abbrev Scanner (α : Type) := List Char → Option (α × List Char)

/-- Past blanks and tabs. -/
def skipBlanks (cs : List Char) : List Char := cs.dropWhile fun c => c == ' ' || c == '\t'

/-- Characters that may stand in comments and literal strings: all but control characters, tabs
excepted. -/
def isText (c : Char) : Bool := c == '\t' || decide (0x20 ≤ c.toNat) && c.toNat != 0x7F

/-- Past a newline, with or without a carriage return. -/
def newline? : List Char → Option (List Char)
  | '\n' :: cs => some cs
  | '\r' :: '\n' :: cs => some cs
  | _ => none

/-- Past a comment, if there is one. -/
def skipComment : List Char → List Char
  | '#' :: cs => cs.dropWhile isText
  | cs => cs

/-- Past blanks, a comment, and the end of the line or of the document. -/
def lineEnd (cs : List Char) : Option (List Char) :=
  match skipComment (skipBlanks cs) with
  | [] => some []
  | cs => newline? cs

/-- Past blanks, newlines and comments with their newlines. -/
def skipGap : Nat → List Char → Option (List Char)
  | 0, _ => none
  | fuel + 1, cs =>
    match skipBlanks cs with
    | '#' :: cs => (newline? (skipComment ('#' :: cs))).bind (skipGap fuel)
    | '\n' :: cs => skipGap fuel cs
    | '\r' :: cs => (newline? ('\r' :: cs)).bind (skipGap fuel)
    | cs => some cs

/-- Past whatever may stand between the values of an array. -/
def gap (cs : List Char) : Option (List Char) := skipGap (cs.length + 1) cs

/-! Strings -/

/-- The character of a code point given by exactly `n` hexadecimal digits. -/
def codePoint (n : Nat) : Scanner Char := fun cs => do
  let ds := cs.take n
  if ds.length < n then none
  let v ← Text.Hex.value? ds
  if v.isValidChar then some (Char.ofNat v, cs.drop n) else none

/-- An escaped character, after the backslash. -/
def escaped : Scanner Char
  | 'b' :: cs => some ('\x08', cs)
  | 'f' :: cs => some ('\x0c', cs)
  | 'n' :: cs => some ('\n', cs)
  | 'r' :: cs => some ('\r', cs)
  | 't' :: cs => some ('\t', cs)
  | '\x5c' :: cs => some ('\x5c', cs)
  | '\x22' :: cs => some ('\x22', cs)
  | 'u' :: cs => codePoint 4 cs
  | 'U' :: cs => codePoint 8 cs
  | _ => none

/-- The rest of a basic string. Every step reads a character, so as much fuel as there are
characters is enough here and below. -/
def basicChars : Nat → Scanner (List Char)
  | 0, _ | _, [] => none
  | fuel + 1, c :: cs =>
    if c = '\x22' then some ([], cs)
    else if c = '\x5c' then do
      let (d, cs) ← escaped cs
      let (ds, cs) ← basicChars fuel cs
      pure (d :: ds, cs)
    else if isText c then (basicChars fuel cs).map fun (ds, cs) => (c :: ds, cs)
    else none

/-- The rest of a literal string. -/
def literalChars : Scanner (List Char)
  | [] => none
  | c :: cs =>
    if c = '\x27' then some ([], cs)
    else if isText c then (literalChars cs).map fun (ds, cs) => (c :: ds, cs)
    else none

/-- The closing quotes of a string of several lines. Up to two more quotes before them belong to
the string. -/
def closing? (q : Char) : List Char → Option (List Char × List Char)
  | a :: b :: c :: cs =>
    if a = q ∧ b = q ∧ c = q then
      match cs with
      | d :: e :: cs =>
        if d = q ∧ e = q then some ([q, q], cs) else if d = q then some ([q], e :: cs)
        else some ([], d :: e :: cs)
      | [d] => if d = q then some ([q], []) else some ([], [d])
      | [] => some ([], [])
    else none
  | _ => none

/-- Past a backslash at the end of a line, the newline and all blanks and newlines after it. -/
def continuation? (cs : List Char) : Option (List Char) :=
  let rec skip : Nat → List Char → List Char
    | 0, cs => cs
    | fuel + 1, cs =>
      match newline? (skipBlanks cs) with
      | some rest => skip fuel rest
      | none => skipBlanks cs
  (newline? (skipBlanks cs)).map fun rest => skip rest.length rest

/-- The rest of a basic string of several lines. -/
def basicLines : Nat → Scanner (List Char)
  | 0, _ => none
  | fuel + 1, cs =>
    match closing? '\x22' cs with
    | some r => some r
    | none =>
      match cs with
      | [] => none
      | '\x5c' :: cs =>
        match continuation? cs with
        | some rest => basicLines fuel rest
        | none => do
          let (d, cs) ← escaped cs
          let (ds, cs) ← basicLines fuel cs
          pure (d :: ds, cs)
      | c :: rest =>
        match newline? cs with
        | some rest => (basicLines fuel rest).map fun (ds, cs) => ('\n' :: ds, cs)
        | none =>
          if isText c then (basicLines fuel rest).map fun (ds, cs) => (c :: ds, cs) else none

/-- The rest of a literal string of several lines. -/
def literalLines : Nat → Scanner (List Char)
  | 0, _ => none
  | fuel + 1, cs =>
    match closing? '\x27' cs with
    | some r => some r
    | none =>
      match cs with
      | [] => none
      | c :: rest =>
        match newline? cs with
        | some rest => (literalLines fuel rest).map fun (ds, cs) => ('\n' :: ds, cs)
        | none =>
          if isText c then (literalLines fuel rest).map fun (ds, cs) => (c :: ds, cs) else none

/-- Less one newline at the start. -/
def dropNewline (cs : List Char) : List Char := (newline? cs).getD cs

/-- A string of any kind. -/
def scanString : Scanner String := fun cs =>
  let ofChars (r : Option (List Char × List Char)) : Option (String × List Char) :=
    r.map fun (ds, cs) => (.ofList ds, cs)
  match cs with
  | '\x22' :: '\x22' :: '\x22' :: cs => ofChars (basicLines (cs.length + 1) (dropNewline cs))
  | '\x22' :: cs => ofChars (basicChars (cs.length + 1) cs)
  | '\x27' :: '\x27' :: '\x27' :: cs => ofChars (literalLines (cs.length + 1) (dropNewline cs))
  | '\x27' :: cs => ofChars (literalChars cs)
  | _ => none

/-! Numbers -/

/-- Further digits; a single underscore may stand between two. -/
def moreDigits (p : Char → Bool) : Scanner (List Char)
  | [] => some ([], [])
  | '_' :: [] => none
  | '_' :: c :: cs =>
    if p c then (moreDigits p cs).map fun (ds, cs) => (c :: ds, cs) else none
  | c :: cs =>
    if p c then (moreDigits p cs).map fun (ds, cs) => (c :: ds, cs) else some ([], c :: cs)

/-- One digit or more. -/
def digits (p : Char → Bool) : Scanner (List Char)
  | [] => none
  | c :: cs => if p c then (moreDigits p cs).map fun (ds, cs) => (c :: ds, cs) else none

/-- An optional sign; whether it was a minus. -/
def sign : List Char → Bool × List Char
  | '-' :: cs => (true, cs)
  | '+' :: cs => (false, cs)
  | cs => (false, cs)

/-- Decimal digits without a zero in front of others. -/
def decimalDigits : Scanner (List Char)
  | '0' :: cs => some (['0'], cs)
  | cs => digits Char.isDigit cs

/-- The exponent of a number, after its letter. -/
def exponent : Scanner Int := fun cs => do
  let (negative, cs) := sign cs
  let (ds, cs) ← digits Char.isDigit cs
  let n : Int := Text.Decimal.value ds
  pure (if negative then -n else n, cs)

/-- Whether `mantissa * 10^exponent` is too large for a double precision number. The bound is
half way from the largest such number to the next power of two. -/
def overflows (mantissa : Nat) (exponent : Int) : Bool :=
  let places : Int := (Text.Decimal.digits mantissa).length + exponent
  if mantissa = 0 ∨ places < 300 then false
  else if 400 < places then true
  else
    let bound : Nat := 1 <<< 1024 - 1 <<< 970
    match exponent with
    | .ofNat e => decide (bound ≤ mantissa * Nat.pow 10 e)
    | .negSucc e => decide (bound * Nat.pow 10 (e + 1) ≤ mantissa)

/-- What makes a number a float: a fraction, an exponent, or both. -/
def floatTail (whole : List Char) : Scanner (List Char × Int) := fun cs =>
  match cs with
  | 'e' :: cs | 'E' :: cs => (exponent cs).map fun (e, cs) => ((whole, e), cs)
  | '.' :: cs => do
    let (frac, cs) ← digits Char.isDigit cs
    let (e, cs) ← match cs with
      | 'e' :: cs | 'E' :: cs => exponent cs
      | cs => some (0, cs)
    pure ((whole ++ frac, e - frac.length), cs)
  | _ => none

/-- The kinds of numbers. -/
inductive Number where
  | integer (n : Int)
  | float

/-- A whole number below 2^63 in another base, after its mark. -/
def basedNumber (base : Nat) : Scanner Number := fun cs => do
  let digit? (c : Char) : Option Nat := (Text.Hex.digit? c).filter (· < base)
  let (ds, cs) ← digits (fun c => (digit? c).isSome) cs
  let n := ds.foldl (fun v c => base * v + (digit? c).getD 0) 0
  if n < 1 <<< 63 then some (.integer n, cs) else none

/-- A decimal number: whole numbers must fit in 64 bits, and a float may not be too large, though
it may be too small. -/
def decimalNumber : Scanner Number := fun cs => do
  let (negative, rest) := sign cs
  match rest with
  | 'i' :: 'n' :: 'f' :: rest | 'n' :: 'a' :: 'n' :: rest => pure (.float, rest)
  | _ => do
    let (ds, rest) ← decimalDigits rest
    match rest with
    | 'e' :: _ | 'E' :: _ | '.' :: _ => do
      let ((mantissa, e), rest) ← floatTail ds rest
      if !negative && overflows (Text.Decimal.value mantissa) e then none
      else pure (.float, rest)
    | _ =>
      let n : Int := Text.Decimal.value ds
      let n := if negative then -n else n
      if Int64.minValue.toInt ≤ n ∧ n ≤ Int64.maxValue.toInt then some (.integer n, rest) else none

/-- A number. -/
def scanNumber : Scanner Number
  | '0' :: 'x' :: cs => basedNumber 16 cs
  | '0' :: 'o' :: cs => basedNumber 8 cs
  | '0' :: 'b' :: cs => basedNumber 2 cs
  | cs => decimalNumber cs

/-! Dates and times -/

/-- A number of exactly `n` digits between two bounds. -/
def fixedDigits (n low high : Nat) : Scanner Nat := fun cs =>
  let ds := cs.take n
  let v := Text.Decimal.value ds
  if ds.length = n && ds.all Char.isDigit && decide (low ≤ v) && decide (v ≤ high) then
    some (v, cs.drop n)
  else none

/-- Past one character. -/
def skipChar (c : Char) : List Char → Option (List Char)
  | d :: cs => if d = c then some cs else none
  | [] => none

/-- How many days a month has. -/
def daysIn (year month : Nat) : Nat :=
  if month = 2 then
    if year % 4 = 0 ∧ (year % 100 ≠ 0 ∨ year % 400 = 0) then 29 else 28
  else if month = 4 ∨ month = 6 ∨ month = 9 ∨ month = 11 then 30
  else 31

/-- Past a date. -/
def date? (cs : List Char) : Option (List Char) := do
  let (year, cs) ← fixedDigits 4 0 9999 cs
  let (month, cs) ← fixedDigits 2 1 12 (← skipChar '-' cs)
  let (day, cs) ← fixedDigits 2 1 31 (← skipChar '-' cs)
  if day ≤ daysIn year month then some cs else none

/-- Past a fraction of a second, if there is one. -/
def skipFraction : List Char → List Char
  | '.' :: c :: cs => if c.isDigit then cs.dropWhile Char.isDigit else '.' :: c :: cs
  | cs => cs

/-- Past a time of day. -/
def time? (cs : List Char) : Option (List Char) := do
  let (_, cs) ← fixedDigits 2 0 23 cs
  let (_, cs) ← fixedDigits 2 0 59 (← skipChar ':' cs)
  let (_, cs) ← fixedDigits 2 0 60 (← skipChar ':' cs)
  pure (skipFraction cs)

/-- Past an offset from universal time, if there is one. -/
def offset? : List Char → Option (List Char)
  | 'Z' :: cs | 'z' :: cs => some cs
  | '+' :: cs | '-' :: cs => do
    let (_, cs) ← fixedDigits 2 0 23 cs
    let (_, cs) ← fixedDigits 2 0 59 (← skipChar ':' cs)
    pure cs
  | cs => some cs

/-- Past a date with an optional time of day, or a time of day. -/
def datetime? (cs : List Char) : Option (List Char) :=
  match date? cs with
  | none => time? cs
  | some rest =>
    match rest with
    | d :: more =>
      if d = 'T' ∨ d = 't' ∨ d = ' ' then
        match time? more with
        | some after => offset? after
        | none => some rest
      else some rest
    | [] => some []

end PaneRunner.Toml
