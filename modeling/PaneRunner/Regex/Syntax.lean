/-
  Patterns as they are written. `depth` is how deep brackets, groups, repetitions and lists of
  them nest; `join` makes one pattern of the parts of a sequence or of an alternation.
-/
namespace PaneRunner.Regex

/-- A character in a pattern. A character written with two hexadecimal digits is a byte. -/
structure Literal where
  char : Char
  byte : Bool := false
  deriving DecidableEq, Repr

/-- The classes `\d`, `\s` and `\w`. -/
inductive PerlClass where
  | digit
  | space
  | word
  deriving DecidableEq, Repr

/-- The classes with a name between colons. -/
inductive AsciiClass where
  | alnum
  | alpha
  | ascii
  | blank
  | cntrl
  | digit
  | graph
  | lower
  | print
  | punct
  | space
  | upper
  | word
  | xdigit
  deriving DecidableEq, Repr

/-- What a Unicode class asks for: one name, or a property and the value that it has or has not. -/
inductive UnicodeQuery where
  | named (name : String)
  | valued (property value : String)
  | unlike (property value : String)
  deriving DecidableEq, Repr

/-- How two sets of characters are combined. -/
inductive SetOperator where
  | intersection
  | difference
  | symmetricDifference
  deriving DecidableEq, Repr

/-- What stands in a bracketed class. -/
inductive SetSyntax where
  | empty
  | literal (l : Literal)
  | range (low high : Literal)
  | ascii (kind : AsciiClass) (negated : Bool)
  | unicode (query : UnicodeQuery) (negated : Bool)
  | perl (kind : PerlClass) (negated : Bool)
  | bracketed (items : SetSyntax) (negated : Bool)
  | union (items : List SetSyntax)
  | operation (op : SetOperator) (left right : SetSyntax)

/-- Conditions on a place in the text. -/
inductive Assertion where
  | lineStart
  | lineEnd
  | textStart
  | textEnd
  | wordBoundary
  | notWordBoundary
  | wordStart
  | wordEnd
  | wordStartHalf
  | wordEndHalf
  deriving DecidableEq, Repr

/-- The flags. -/
inductive Flag where
  | ignoreCase
  | multiLine
  | dotNewline
  | swapGreed
  | unicode
  | crlf
  | extended
  deriving DecidableEq, Repr

/-- The flags that a group sets, with the value of each. -/
abbrev FlagSettings := List (Flag × Bool)

/-- How often something is repeated; without `most`, any number of times from `least` on. -/
structure Times where
  least : Nat
  most : Option Nat
  deriving DecidableEq, Repr

/-- A pattern as it is written. -/
inductive Syntax where
  | empty
  | flags (settings : FlagSettings)
  | literal (l : Literal)
  | dot
  | assertion (kind : Assertion)
  | unicode (query : UnicodeQuery) (negated : Bool)
  | perl (kind : PerlClass) (negated : Bool)
  | bracketed (items : SetSyntax) (negated : Bool)
  | repetition (body : Syntax) (times : Times) (greedy : Bool)
  /-- a group; `captures` tells whether what it matches can be asked for -/
  | group (captures : Bool) (settings : FlagSettings) (body : Syntax)
  | sequence (parts : List Syntax)
  | alternation (parts : List Syntax)

namespace SetSyntax

/-- The items of a class as one. -/
def join : List SetSyntax → SetSyntax
  | [] => .empty
  | [item] => item
  | items => .union items

mutual

/-- How deep a class nests. -/
def depth : SetSyntax → Nat
  | .bracketed items _ => items.depth + 1
  | .union items => depths items + 1
  | .operation _ left right => max left.depth right.depth + 1
  | _ => 0

/-- How deep the deepest of some classes nests. -/
def depths : List SetSyntax → Nat
  | [] => 0
  | item :: items => max item.depth (depths items)

end

end SetSyntax

namespace Syntax

/-- The parts of a sequence as one pattern. -/
def join : List Syntax → Syntax
  | [] => .empty
  | [part] => part
  | parts => .sequence parts

/-- The branches of an alternation as one pattern. -/
def joinBranches : List Syntax → Syntax
  | [] => .empty
  | [part] => part
  | parts => .alternation parts

/-- Whether a repetition may follow. -/
def repeatable : Syntax → Bool
  | .empty | .flags _ => false
  | _ => true

mutual

/-- How deep a pattern nests. -/
def depth : Syntax → Nat
  | .bracketed items _ => items.depth + 1
  | .repetition body _ _ => body.depth + 1
  | .group _ _ body => body.depth + 1
  | .sequence parts => depths parts + 1
  | .alternation parts => depths parts + 1
  | _ => 0

/-- How deep the deepest of some patterns nests. -/
def depths : List Syntax → Nat
  | [] => 0
  | part :: parts => max part.depth (depths parts)

end

end Syntax

end PaneRunner.Regex
