import PaneRunner.Regex.Escape
import PaneRunner.Regex.Syntax
import PaneRunner.Text.Blank
import PaneRunner.Text.Hex
import PaneRunner.Text.Search

/-
  The small parts of a pattern: escapes, numbers, flags, names. Each scanner takes the characters
  still to read and gives those it left, or `none` where the pattern is malformed. `x` tells
  whether the pattern is extended: blanks and comments do not count then.
-/
namespace PaneRunner.Regex

/-- Past blanks and comments. -/
def skipSpace (comment : Bool) : List Char → List Char
  | [] => []
  | c :: cs =>
    if comment then skipSpace (c != '\n') cs
    else if c = '#' then skipSpace true cs
    else if Text.isBlankChar c then skipSpace false cs
    else c :: cs

/-- Past what does not count. -/
def blank (x : Bool) (cs : List Char) : List Char := if x then skipSpace false cs else cs

theorem length_skipSpace_le (comment : Bool) (cs : List Char) :
    (skipSpace comment cs).length ≤ cs.length := by
  induction cs generalizing comment with
  | nil => simp [skipSpace]
  | cons c cs ih =>
    simp only [skipSpace, List.length_cons]
    split
    · exact Nat.le_succ_of_le (ih _)
    split
    · exact Nat.le_succ_of_le (ih _)
    split
    · exact Nat.le_succ_of_le (ih _)
    · simp

theorem length_blank_le (x : Bool) (cs : List Char) : (blank x cs).length ≤ cs.length := by
  unfold blank
  split
  · exact length_skipSpace_le false cs
  · exact Nat.le_refl _

/-- The characters that satisfy `p`, and what follows them. -/
def takeSpaced (x : Bool) (p : Char → Bool) : List Char → List Char × List Char
  | [] => ([], [])
  | c :: cs =>
    if p c then
      let (taken, rest) := takeSpaced x p (blank x cs)
      (c :: taken, rest)
    else ([], c :: cs)
termination_by cs => cs.length
decreasing_by
  have := length_blank_le x cs
  simp only [List.length_cons]
  omega

/-- A decimal number below 2^32, blanks around it aside. -/
def decimal (x : Bool) (cs : List Char) : Option (Nat × List Char) :=
  let (ds, rest) := takeSpaced x Char.isDigit (cs.dropWhile Text.isBlankChar)
  if ds.isEmpty || decide (1 <<< 32 ≤ Text.Decimal.value ds) then none
  else some (Text.Decimal.value ds, rest.dropWhile Text.isBlankChar)

/-- The character of a code point. -/
def scalar? (n : Nat) : Option Char := if n.isValidChar then some (Char.ofNat n) else none

/-- A number of hexadecimal digits. -/
def takeHex (x : Bool) : Nat → List Char → Option (List Char × List Char)
  | 0, cs => some ([], cs)
  | _ + 1, [] => none
  | n + 1, c :: cs =>
    if (Text.Hex.digit? c).isSome then
      (takeHex x n (blank x cs)).map fun (ds, rest) => (c :: ds, rest)
    else none

/-- What stands between braces, the opening one having been read. -/
def braced (x : Bool) (cs : List Char) : Option (List Char × List Char) :=
  match takeSpaced x (· != '\x7d') (blank x cs) with
  | (inner, _ :: rest) => some (inner, rest)
  | (_, []) => none

/-- A character by its number: as many digits as the letter asks for, or any number of them
between braces. -/
def hexEscape (x : Bool) (letter : Char) (cs : List Char) : Option (Literal × List Char) :=
  match blank x cs with
  | [] => none
  | '\x7b' :: cs => do
    let (ds, rest) ← braced x cs
    let c ← scalar? (← Text.Hex.value? ds)
    pure ({ char := c }, blank x rest)
  | cs => do
    let count := if letter = 'x' then 2 else if letter = 'u' then 4 else 8
    let (ds, rest) ← takeHex x count cs
    let c ← scalar? (← Text.Hex.value? ds)
    pure ({ char := c, byte := letter == 'x' }, rest)

/-- What a name between braces asks for. -/
def readQuery (name : String) : UnicodeQuery :=
  match Text.splitOnce? name "!=", Text.splitOnce? name ":", Text.splitOnce? name "=" with
  | some (p, v), _, _ => .unlike p v
  | none, some (p, v), _ | none, none, some (p, v) => .valued p v
  | none, none, none => .named name

/-- A Unicode class, after its letter. -/
def unicodeEscape (x : Bool) (cs : List Char) : Option (UnicodeQuery × List Char) :=
  match blank x cs with
  | [] | '\x5c' :: _ => none
  | '\x7b' :: cs => (braced x cs).map fun (name, rest) => (readQuery (.ofList name), rest)
  | c :: cs => some (.named (.ofList [c]), blank x cs)

/-- What one escape, or one plain character, stands for. -/
inductive Primitive where
  | literal (l : Literal)
  | assertion (kind : Assertion)
  | unicode (query : UnicodeQuery) (negated : Bool)
  | perl (kind : PerlClass) (negated : Bool)

/-- A primitive outside brackets. -/
def Primitive.toSyntax : Primitive → Syntax
  | .literal l => .literal l
  | .assertion kind => .assertion kind
  | .unicode query negated => .unicode query negated
  | .perl kind negated => .perl kind negated

/-- A primitive inside brackets, where no assertion can stand. -/
def Primitive.toSet? : Primitive → Option SetSyntax
  | .literal l => some (.literal l)
  | .assertion _ => none
  | .unicode query negated => some (.unicode query negated)
  | .perl kind negated => some (.perl kind negated)

/-- The word boundaries that have a name. -/
def namedBoundary? : String → Option Assertion
  | "start" => some .wordStart
  | "end" => some .wordEnd
  | "start-half" => some .wordStartHalf
  | "end-half" => some .wordEndHalf
  | _ => none

/-- A word boundary, after its letter. A name between braces may follow; braces that cannot be a
name are left to stand for a repetition. -/
def boundary (x : Bool) (cs : List Char) : Option (Assertion × List Char) :=
  let nameChar (c : Char) : Bool := c.isAlpha || c == '-'
  match cs with
  | '\x7b' :: rest =>
    match blank x rest with
    | [] => none
    | c :: more =>
      if nameChar c then
        match takeSpaced x nameChar (c :: more) with
        | (name, '\x7d' :: rest) => (namedBoundary? (.ofList name)).map fun a => (a, rest)
        | _ => none
      else some (.wordBoundary, cs)
  | _ => some (.wordBoundary, cs)

/-- Characters that may be escaped although they need not be. -/
def isEscapable (c : Char) : Bool :=
  decide (c.toNat < 128) && !c.isAlphanum && c != '<' && c != '>'

/-- An escape, after the backslash. -/
def scanEscape (x : Bool) : List Char → Option (Primitive × List Char)
  | [] => none
  | c :: cs =>
    let char (d : Char) : Option (Primitive × List Char) := some (.literal { char := d }, cs)
    let assertion (a : Assertion) : Option (Primitive × List Char) := some (.assertion a, cs)
    match c with
    | 'x' | 'u' | 'U' => (hexEscape x c cs).map fun (l, rest) => (.literal l, rest)
    | 'p' | 'P' => (unicodeEscape x cs).map fun (q, rest) => (.unicode q (c == 'P'), rest)
    | 'd' | 'D' => some (.perl .digit (c == 'D'), cs)
    | 's' | 'S' => some (.perl .space (c == 'S'), cs)
    | 'w' | 'W' => some (.perl .word (c == 'W'), cs)
    | 'a' => char '\x07'
    | 'f' => char '\x0c'
    | 't' => char '\t'
    | 'n' => char '\n'
    | 'r' => char '\r'
    | 'v' => char '\x0b'
    | 'A' => assertion .textStart
    | 'z' => assertion .textEnd
    | 'b' => (boundary x cs).map fun (a, rest) => (.assertion a, rest)
    | 'B' => assertion .notWordBoundary
    | '<' => assertion .wordStart
    | '>' => assertion .wordEnd
    | _ => if isEscapable c then char c else none

/-- The flag of a letter. -/
def flag? : Char → Option Flag
  | 'i' => some .ignoreCase
  | 'm' => some .multiLine
  | 's' => some .dotNewline
  | 'U' => some .swapGreed
  | 'u' => some .unicode
  | 'R' => some .crlf
  | 'x' => some .extended
  | _ => none

/-- Flags up to a colon or a closing parenthesis, which is given back too. Those after a hyphen
are switched off; there is one hyphen at most, and a flag after it. -/
def scanFlags (negated dangling : Bool) (settings : FlagSettings) :
    List Char → Option (FlagSettings × Char × List Char)
  | [] => none
  | c :: cs =>
    if c = ':' ∨ c = ')' then if dangling then none else some (settings, c, cs)
    else if c = '-' then if negated then none else scanFlags true true settings cs
    else match flag? c with
      | none => none
      | some f =>
        if settings.any fun s => s.1 == f then none
        else scanFlags negated false (settings ++ [(f, !negated)]) cs

end PaneRunner.Regex
