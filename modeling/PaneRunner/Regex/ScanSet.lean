import PaneRunner.Regex.Scan

/-
  Bracketed classes. A class is a list of items; operators between lists bind to the left, and a
  class may stand inside another. `scanSet` keeps the classes and operands that are open on a
  stack.
-/
namespace PaneRunner.Regex

/-- The class of a name between colons. -/
def asciiClass? : String → Option AsciiClass
  | "alnum" => some .alnum
  | "alpha" => some .alpha
  | "ascii" => some .ascii
  | "blank" => some .blank
  | "cntrl" => some .cntrl
  | "digit" => some .digit
  | "graph" => some .graph
  | "lower" => some .lower
  | "print" => some .print
  | "punct" => some .punct
  | "space" => some .space
  | "upper" => some .upper
  | "word" => some .word
  | "xdigit" => some .xdigit
  | _ => none

/-- A named class, after its opening bracket. -/
def scanAsciiClass (cs : List Char) : Option (SetSyntax × List Char) := do
  let cs ← Text.dropStart? [':'] cs
  let (negated, cs) := match cs with
    | '^' :: cs => (true, cs)
    | cs => (false, cs)
  let kind ← asciiClass? (.ofList (cs.takeWhile (· != ':')))
  let rest ← Text.dropStart? [':', ']'] (cs.dropWhile (· != ':'))
  pure (.ascii kind negated, rest)

/-- The first character that is neither blank nor the start of a comment. -/
def seekSpaced (comment : Bool) : List Char → Option Char
  | [] => none
  | c :: cs =>
    if Text.isBlankChar c then seekSpaced comment cs
    else if c = '#' && !comment then seekSpaced true cs
    else some c

/-- The next character that counts; where there is none, the next character. -/
def peekSpaced (x : Bool) (cs : List Char) : Option Char :=
  if x then (seekSpaced false cs).orElse fun _ => cs.head? else cs.head?

/-- An escape or a plain character. -/
def scanItem (x : Bool) : List Char → Option (Primitive × List Char)
  | [] => none
  | '\x5c' :: cs => scanEscape x cs
  | c :: cs => some (.literal { char := c }, cs)

/-- A range between two primitives. -/
def range? : Primitive → Primitive → Option SetSyntax
  | .literal low, .literal high => if low.char ≤ high.char then some (.range low high) else none
  | _, _ => none

/-- One item of a class: a range, if a hyphen follows that is neither the last character nor half
of an operator, and a single primitive otherwise. -/
def scanRange (x : Bool) (cs : List Char) : Option (SetSyntax × List Char) := do
  let (first, rest) ← scanItem x cs
  match blank x rest with
  | [] => none
  | '-' :: after =>
    if peekSpaced x after = some ']' ∨ peekSpaced x after = some '-' then
      (first.toSet?).map fun s => (s, '-' :: after)
    else match blank x after with
      | [] => none
      | after => do
        let (second, rest) ← scanItem x after
        pure (← range? first second, rest)
  | rest => (first.toSet?).map fun s => (s, rest)

/-- The opening of a class, after its bracket: whether it is negated, and the hyphens or the
closing bracket that stand for themselves there. -/
def openSet (x : Bool) (cs : List Char) : Option (Bool × List SetSyntax × List Char) :=
  let (negated, cs) := match blank x cs with
    | '^' :: cs => (true, blank x cs)
    | cs => (false, cs)
  let (hyphens, cs) := takeSpaced x (· == '-') cs
  let literal (c : Char) : SetSyntax := .literal { char := c }
  match hyphens, cs with
  | _, [] => none
  | [], ']' :: cs => match blank x cs with
    | [] => none
    | cs => some (negated, [literal ']'], cs)
  | hyphens, cs => some (negated, hyphens.map literal, cs)

/-- What is open around the items being read. -/
inductive SetFrame where
  /-- a class, with the items around it -/
  | class (around : List SetSyntax) (negated : Bool)
  /-- an operator, with its left operand -/
  | operand (op : SetOperator) (left : SetSyntax)

/-- Apply the operator that waits for its right operand, if there is one. -/
def applyOperator (right : SetSyntax) : List SetFrame → SetSyntax × List SetFrame
  | .operand op left :: rest => (.operation op left right, rest)
  | rest => (right, rest)

/-- An operator at the start. -/
def operator? : List Char → Option (SetOperator × List Char)
  | '&' :: '&' :: cs => some (.intersection, cs)
  | '-' :: '-' :: cs => some (.difference, cs)
  | '~' :: '~' :: cs => some (.symmetricDifference, cs)
  | _ => none

/-- Items up to the closing bracket of the outermost class. Every step reads a character, so as
much fuel as there are characters is enough. -/
def scanSet (x : Bool) : Nat → List SetFrame → List SetSyntax → List Char →
    Option (Syntax × List Char)
  | 0, _, _, _ => none
  | fuel + 1, open?, items, cs =>
    match blank x cs with
    | [] => none
    | '[' :: cs =>
      match scanAsciiClass cs with
      | some (item, rest) => scanSet x fuel open? (items ++ [item]) rest
      | none =>
        match openSet x cs with
        | none => none
        | some (negated, inner, rest) => scanSet x fuel (.class items negated :: open?) inner rest
    | ']' :: rest =>
      match applyOperator (SetSyntax.join items) open? with
      | (set, [.class _ negated]) => some (.bracketed set negated, rest)
      | (set, .class around negated :: open?) =>
        scanSet x fuel open? (around ++ [.bracketed set negated]) rest
      | _ => none
    | cs =>
      match operator? cs with
      | some (op, rest) =>
        let (left, open?) := applyOperator (SetSyntax.join items) open?
        scanSet x fuel (.operand op left :: open?) [] rest
      | none =>
        match scanRange x cs with
        | none => none
        | some (item, rest) => scanSet x fuel open? (items ++ [item]) rest

/-- A bracketed class, after its opening bracket. -/
def scanBracketed (x : Bool) (cs : List Char) : Option (Syntax × List Char) := do
  let (negated, items, rest) ← openSet x cs
  scanSet x (rest.length + 1) [.class [] negated] items rest

end PaneRunner.Regex
