import PaneRunner.Regex.ScanSet
import PaneRunner.Unicode.Newer

/-
  Reading a pattern. `scan` goes through the characters once and keeps the groups and alternations
  that are open on a stack; `parse?` gives the pattern if it is well formed and does not nest
  too deep.
-/
namespace PaneRunner.Regex

/-- What is open around the parts being read. -/
inductive Frame where
  /-- a group, with the parts before it and whether the pattern around it is extended -/
  | group (before : List Syntax) (captures : Bool) (settings : FlagSettings) (x : Bool)
  /-- the finished branches of an alternation -/
  | branches (done : List Syntax)

/-- Where the reading of a pattern stands. -/
structure Scan where
  /-- whether blanks and comments do not count -/
  x : Bool := false
  frames : List Frame := []
  parts : List Syntax := []
  /-- the group names so far -/
  names : List (List Char) := []

namespace Scan

/-- One more part. -/
def push (s : Scan) (part : Syntax) : Scan := { s with parts := s.parts ++ [part] }

/-- The end of a branch, another being about to start. -/
def branch (s : Scan) : Scan :=
  match s.frames with
  | .branches done :: rest =>
    { s with frames := .branches (done ++ [Syntax.join s.parts]) :: rest, parts := [] }
  | frames => { s with frames := .branches [Syntax.join s.parts] :: frames, parts := [] }

/-- The parts read since the innermost group was opened, and what is open around them. -/
def body (s : Scan) : Syntax × List Frame :=
  match s.frames with
  | .branches done :: rest => (Syntax.joinBranches (done ++ [Syntax.join s.parts]), rest)
  | frames => (Syntax.join s.parts, frames)

/-- The end of a group. -/
def close (s : Scan) : Option Scan :=
  match s.body with
  | (body, .group before captures settings x :: rest) =>
    some { s with x, frames := rest, parts := before ++ [.group captures settings body] }
  | _ => none

/-- The end of the pattern. -/
def finish (s : Scan) : Option Syntax :=
  match s.body with
  | (body, []) => some body
  | _ => none

/-- The last part, repeated. -/
def repeatLast (s : Scan) (times : Times) (greedy : Bool) : Option Scan :=
  match s.parts.getLast? with
  | none => none
  | some part =>
    if part.repeatable then
      some { s with parts := s.parts.dropLast ++ [.repetition part times greedy] }
    else none

/-- The start of a group. -/
def openGroup (s : Scan) (captures : Bool) (settings : FlagSettings) : Scan :=
  { s with
    x := (settings.lookup .extended).getD s.x
    frames := .group s.parts captures settings s.x :: s.frames
    parts := [] }

end Scan

/-- A group name, up to the closing angle bracket. -/
def groupName (cs : List Char) : Option (List Char × List Char) :=
  match cs.takeWhile (· != '>'), cs.dropWhile (· != '>') with
  | c :: name, _ :: rest =>
    let first := c == '_' || Unicode.nameStarts.contains c
    let other (c : Char) : Bool :=
      c == '_' || c == '.' || c == '[' || c == ']' || Unicode.nameChars.contains c
    if first && name.all other then some (c :: name, rest) else none
  | _, _ => none

/-- What may start with a question mark after an opening parenthesis: a named group, flags, or a
group with flags. Looking around is not supported. -/
def scanSpecialGroup (s : Scan) (cs : List Char) : Option (Scan × List Char) :=
  let named (cs : List Char) : Option (Scan × List Char) := do
    let (name, rest) ← groupName cs
    if s.names.contains name then none
    pure ({ s with names := name :: s.names : Scan }.openGroup true [], rest)
  match cs with
  | '=' :: _ | '!' :: _ | '<' :: '=' :: _ | '<' :: '!' :: _ => none
  | 'P' :: '<' :: cs | '<' :: cs => named cs
  | cs =>
    match scanFlags false false [] cs with
    | none => none
    | some (settings, ':', rest) => some (s.openGroup false settings, rest)
    | some ([], _, _) => none
    | some (settings, _, rest) =>
      some ({ s with x := (settings.lookup .extended).getD s.x : Scan }.push (.flags settings), rest)

/-- A group, after its opening parenthesis. -/
def scanGroup (s : Scan) (cs : List Char) : Option (Scan × List Char) :=
  match blank s.x cs with
  | '?' :: cs => scanSpecialGroup s cs
  | cs => some (s.openGroup true [], cs)

/-- Whether a repetition is greedy; a question mark makes it lazy. -/
def scanGreed : List Char → Bool × List Char
  | '?' :: cs => (false, cs)
  | cs => (true, cs)

/-- The numbers of a repetition, after the opening brace and up to the closing one. -/
def scanTimes (x : Bool) (cs : List Char) : Option (Times × List Char) := do
  let (least, cs) ← decimal x (blank x cs)
  let (times, cs) : Times × List Char ← match cs with
    | ',' :: cs =>
      match blank x cs with
      | '\x7d' :: cs => some (⟨least, none⟩, '\x7d' :: cs)
      | cs => (decimal x cs).map fun (most, cs) => (⟨least, some most⟩, cs)
    | cs => some (⟨least, some least⟩, cs)
  match cs with
  | '\x7d' :: cs => if times.most.all (times.least ≤ ·) then some (times, blank x cs) else none
  | _ => none

/-- The rest of a pattern. Every step reads a character, so as much fuel as there are characters
is enough. -/
def scan : Nat → Scan → List Char → Option Syntax
  | 0, _, _ => none
  | fuel + 1, s, cs =>
    match blank s.x cs with
    | [] => s.finish
    | '(' :: cs =>
      match scanGroup s cs with
      | some (s, rest) => scan fuel s rest
      | none => none
    | ')' :: rest =>
      match s.close with
      | some s => scan fuel s rest
      | none => none
    | '|' :: rest => scan fuel s.branch rest
    | '[' :: cs =>
      match scanBracketed s.x cs with
      | some (part, rest) => scan fuel (s.push part) rest
      | none => none
    | '?' :: rest => repeated fuel s ⟨0, some 1⟩ rest
    | '*' :: rest => repeated fuel s ⟨0, none⟩ rest
    | '+' :: rest => repeated fuel s ⟨1, none⟩ rest
    | '\x7b' :: cs =>
      match scanTimes s.x cs with
      | some (times, rest) => repeated fuel s times rest
      | none => none
    | '\x5c' :: cs =>
      match scanEscape s.x cs with
      | some (p, rest) => scan fuel (s.push p.toSyntax) rest
      | none => none
    | '.' :: rest => scan fuel (s.push .dot) rest
    | '^' :: rest => scan fuel (s.push (.assertion .lineStart)) rest
    | '$' :: rest => scan fuel (s.push (.assertion .lineEnd)) rest
    | c :: rest => scan fuel (s.push (.literal { char := c })) rest
where
  /-- Go on after a repetition of the last part. -/
  repeated (fuel : Nat) (s : Scan) (times : Times) (cs : List Char) : Option Syntax :=
    let (greedy, rest) := scanGreed cs
    match s.repeatLast times greedy with
    | some s => scan fuel s rest
    | none => none

/-- How deep a pattern may nest. -/
def depthLimit : Nat := 250

/-- The pattern that a text writes down. -/
def parse? (s : String) : Option Syntax := do
  let pattern ← scan (s.toList.length + 1) {} s.toList
  if pattern.depth ≤ depthLimit then some pattern else none

end PaneRunner.Regex
