import PaneRunner.Regex.Expr

/-
  Patterns in reduced form: sequences and choices are flat, characters in a row are one text,
  a choice between characters is a set, and what all branches of a choice start with stands before
  it. `ofSeq`, `ofAlt`, `ofRepeat` and `ofChars` build reduced patterns from reduced parts.
-/
namespace PaneRunner.Regex

/-- Expressions over sets of characters and conditions on places. -/
abbrev Pattern := Expr CharSet Look

/-- A way to go through a pattern. -/
inductive Direction where
  | forward
  | backward

/-- Parts in the order in which they are met. -/
def Direction.order {α : Type} (d : Direction) (parts : List α) : List α :=
  match d with
  | .forward => parts
  | .backward => parts.reverse

/-- A reduced pattern. -/
inductive Reduced where
  | empty
  | text (cs : List Char)
  | chars (s : CharSet)
  | look (l : Look)
  | repeat (body : Reduced) (times : Times) (greedy : Bool)
  /-- a group that captures -/
  | group (body : Reduced)
  | seq (parts : List Reduced)
  | alt (branches : List Reduced)

namespace Reduced

mutual

/-- The expression that says what a reduced pattern matches. -/
def expr : Reduced → Pattern
  | .empty => .empty
  | .text cs => cs.foldr (fun c e => .seq (.char (.single c)) e) .empty
  | .chars s => .char s
  | .look l => .look l
  | .repeat body times _ => .repeat body.expr times
  | .group body => body.expr
  | .seq parts => seqExpr parts
  | .alt branches => altExpr branches

/-- Some patterns, one after another. -/
def seqExpr : List Reduced → Pattern
  | [] => .empty
  | [p] => p.expr
  | p :: ps => .seq p.expr (seqExpr ps)

/-- One of some patterns. -/
def altExpr : List Reduced → Pattern
  | [] => .char .empty
  | [p] => p.expr
  | p :: ps => .alt p.expr (altExpr ps)

end

mutual

/-- The bytes of a shortest match; none if there may be no match. -/
def minLength : Reduced → Option Nat
  | .empty | .look _ => some 0
  | .text cs => some (String.ofList cs).utf8ByteSize
  | .chars s => s.ranges.head?.map fun r => (Char.ofNat r.1).utf8Size
  | .repeat body times _ => body.minLength.map (· * times.least)
  | .group body => body.minLength
  | .seq parts => (minLengths parts).map List.sum
  | .alt branches => (minLengths branches).bind List.min?

/-- The same for each of some patterns; none if one of them may have no match. -/
def minLengths : List Reduced → Option (List Nat)
  | [] => some []
  | p :: ps => do pure ((← p.minLength) :: (← minLengths ps))

end

mutual

/-- The bytes of a longest match; none if there may be no match or no longest one. -/
def maxLength : Reduced → Option Nat
  | .empty | .look _ => some 0
  | .text cs => some (String.ofList cs).utf8ByteSize
  | .chars s => s.ranges.getLast?.map fun r => (Char.ofNat r.2).utf8Size
  | .repeat body times _ => do pure ((← body.maxLength) * (← times.most))
  | .group body => body.maxLength
  | .seq parts => (maxLengths parts).map List.sum
  | .alt branches => (maxLengths branches).bind List.max?

/-- The same for each of some patterns; none if one of them has none. -/
def maxLengths : List Reduced → Option (List Nat)
  | [] => some []
  | p :: ps => do pure ((← p.maxLength) :: (← maxLengths ps))

end

/-- Whether a pattern takes up no characters. -/
def isWidthless (p : Reduced) : Bool := p.maxLength == some 0

/-- Whether the first part that takes up characters, or one before it, is marked; a part comes with
its mark and whether it takes up no characters. -/
def anyLeading : List (Bool × Bool) → Bool
  | [] => false
  | (marked, widthless) :: rest => marked || widthless && anyLeading rest

mutual

/-- Whether the form shows that every match has `l` hold where it is entered. -/
def entersAt (d : Direction) (l : Look) : Reduced → Bool
  | .look l' => l' == l
  | .repeat body times _ => times.least != 0 && body.entersAt d l
  | .group body => body.entersAt d l
  | .seq parts => anyLeading (d.order (entries d l parts))
  | .alt branches => (entries d l branches).all (·.1)
  | .empty | .text _ | .chars _ => false

/-- For each of some patterns, whether it is entered at `l`, and whether it is without width. -/
def entries (d : Direction) (l : Look) : List Reduced → List (Bool × Bool)
  | [] => []
  | p :: ps => (p.entersAt d l, p.isWidthless) :: entries d l ps

end

mutual

/-- Whether two patterns are written the same; a group is like no other. -/
def same : Reduced → Reduced → Bool
  | .empty, .empty => true
  | .text cs, .text ds => cs == ds
  | .chars s, .chars t => s == t
  | .look l, .look l' => l == l'
  | .repeat body times greedy, .repeat body' times' greedy' =>
    times == times' && greedy == greedy' && body.same body'
  | .seq parts, .seq parts' => allSame parts parts'
  | .alt branches, .alt branches' => allSame branches branches'
  | _, _ => false

/-- Whether the patterns of two lists are written the same. -/
def allSame : List Reduced → List Reduced → Bool
  | [], [] => true
  | p :: ps, q :: qs => p.same q && allSame ps qs
  | _, _ => false

end

/-- A set of characters, or the only one of them. -/
def ofChars (s : CharSet) : Reduced :=
  match s.only? with
  | some c => .text [c]
  | none => .chars s

/-- What a pattern is in a sequence of others. -/
def parts : Reduced → List Reduced
  | .empty => []
  | .seq parts => parts
  | p => [p]

/-- One more part in front; a text joins a text. -/
def consPart : Reduced → List Reduced → List Reduced
  | .text cs, .text ds :: ps => .text (cs ++ ds) :: ps
  | p, ps => p :: ps

/-- Some patterns, one after another. -/
def ofSeq (ps : List Reduced) : Reduced :=
  match (ps.flatMap parts).foldr consPart [] with
  | [] => .empty
  | [p] => p
  | ps => .seq ps

/-- A repeated pattern. What takes up no characters is repeated once at most. -/
def ofRepeat (body : Reduced) (times : Times) (greedy : Bool) : Reduced :=
  let times : Times :=
    if body.isWidthless then ⟨min times.least 1, some (min (times.most.getD 1) 1)⟩ else times
  match times with
  | ⟨0, some 0⟩ => .empty
  | ⟨1, some 1⟩ => body
  | times => .repeat body times greedy

/-- What a pattern is in a choice between others. -/
def branches : Reduced → List Reduced
  | .alt branches => branches
  | p => [p]

/-- The characters of a text. -/
def text? : Reduced → Option (List Char)
  | .text cs => some cs
  | _ => none

/-- The character of a text of one character. -/
def char? : Reduced → Option Char
  | .text [c] => some c
  | _ => none

/-- The set of a set of characters. -/
def chars? : Reduced → Option CharSet
  | .chars s => some s
  | _ => none

/-- The parts of a sequence. -/
def seq? : Reduced → Option (List Reduced)
  | .seq parts => some parts
  | _ => none

/-- A choice between some patterns, whatever they start with. -/
def choice (ps : List Reduced) : Reduced :=
  match ps.flatMap branches with
  | [p] => p
  | ps =>
    match ps.mapM char?, ps.mapM chars? with
    | some cs, _ => ofChars (.ofList (cs.map Char.toNat))
    | none, some ss => ofChars (.unions ss)
    | none, none => .alt ps

/-- How many parts two sequences start with in common. -/
def commonLength : List Reduced → List Reduced → Nat
  | p :: ps, q :: qs => if p.same q then commonLength ps qs + 1 else 0
  | _, _ => 0

/-- A choice between some patterns. What all of them start with comes first, and the choice is
between the rests. -/
def ofAlt (ps : List Reduced) : Reduced :=
  match choice ps with
  | .alt ps =>
    match ps.mapM seq? with
    | some (first :: others) =>
      match others.foldl (fun n parts => min n (commonLength first parts)) first.length with
      | 0 => .alt ps
      | n =>
        let rests := (first :: others).map fun parts => ofSeq (parts.drop n)
        ofSeq (first.take n ++ [choice rests])
    | _ => .alt ps
  | p => p

end Reduced

end PaneRunner.Regex
