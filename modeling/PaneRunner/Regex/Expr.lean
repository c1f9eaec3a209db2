import PaneRunner.Regex.Syntax
import PaneRunner.Unicode.Letters

/-
  What patterns mean. An expression relates places in a text: `Matches t e i j` says that `e`
  matches the part of `t` from `i` to `j`. `search` decides whether some part matches. It keeps
  sets of places as the bits of a number, so a repetition is a loop over such sets.
-/
namespace PaneRunner.Regex

/-- A condition on a place; `unicode` tells what words are made of, `crlf` how lines end. -/
inductive Look where
  | start
  | finish
  | lineStart (crlf : Bool)
  | lineEnd (crlf : Bool)
  | boundary (unicode : Bool)
  | notBoundary (unicode : Bool)
  | wordStart (unicode : Bool)
  | wordEnd (unicode : Bool)
  | wordStartHalf (unicode : Bool)
  | wordEndHalf (unicode : Bool)
  deriving DecidableEq, Repr

/-- Whether a condition holds between the characters `before` and `after`, where there are any. -/
def Look.holds (l : Look) (before after : Option Char) : Bool :=
  let isWord (unicode : Bool) (c : Option Char) : Bool :=
    c.any fun c => if unicode then Unicode.wordChars.contains c else c.isAlphanum || c == '_'
  match l with
  | .start => before.isNone
  | .finish => after.isNone
  | .lineStart false => before.all (· == '\n')
  | .lineStart true => before.all fun c => c == '\n' || c == '\r' && after != some '\n'
  | .lineEnd false => after.all (· == '\n')
  | .lineEnd true => after.all fun c => c == '\r' || c == '\n' && before != some '\r'
  | .boundary u => isWord u before != isWord u after
  | .notBoundary u => isWord u before == isWord u after
  | .wordStart u => !isWord u before && isWord u after
  | .wordEnd u => isWord u before && !isWord u after
  | .wordStartHalf u => !isWord u before
  | .wordEndHalf u => !isWord u after

/-- An expression over sets of characters `σ` and conditions `κ`. -/
inductive Expr (σ κ : Type) where
  | empty
  | char (s : σ)
  | look (l : κ)
  | seq (a b : Expr σ κ)
  | alt (a b : Expr σ κ)
  | repeat (a : Expr σ κ) (times : Times)

namespace Expr

variable {σ κ σ' κ' : Type}

/-- Other sets and conditions in their place. -/
def map (f : σ → σ') (g : κ → κ') : Expr σ κ → Expr σ' κ'
  | .empty => .empty
  | .char s => .char (f s)
  | .look l => .look (g l)
  | .seq a b => .seq (a.map f g) (b.map f g)
  | .alt a b => .alt (a.map f g) (b.map f g)
  | .repeat a times => .repeat (a.map f g) times

/-- A chain of `n` steps. -/
inductive Chain {α : Type} (r : α → α → Prop) : Nat → α → α → Prop where
  | nil (a : α) : Chain r 0 a a
  | cons {n : Nat} {a b c : α} (h : r a b) (t : Chain r n b c) : Chain r (n + 1) a c

/-- `e` matches the part of the text from `i` to `j`. -/
def Matches (t : List Char) : Expr CharSet Look → Nat → Nat → Prop
  | .empty, i, j => i = j
  | .char s, i, j => j = i + 1 ∧ ∃ c, t[i]? = some c ∧ s.contains c = true
  | .look l, i, j =>
    i = j ∧ i ≤ t.length ∧ l.holds (if i = 0 then none else t[i - 1]?) t[i]? = true
  | .seq a b, i, j => ∃ k, a.Matches t i k ∧ b.Matches t k j
  | .alt a b, i, j => a.Matches t i j ∨ b.Matches t i j
  | .repeat a times, i, j =>
    ∃ n, times.least ≤ n ∧ (∀ m, times.most = some m → n ≤ m) ∧ Chain (a.Matches t) n i j

/-- The places that satisfy `p`, as the bits of a number. -/
def places {α : Type} (p : α → Bool) : List α → Nat
  | [] => 0
  | a :: as => 2 * places p as + if p a then 1 else 0

/-- Every place with the characters before and after it. -/
def gaps (before : Option Char) : List Char → List (Option Char × Option Char)
  | [] => [(before, none)]
  | c :: cs => (before, some c) :: gaps (some c) cs

/-- An expression with its sets and conditions evaluated at every place of a text. -/
def locate (t : List Char) : Expr CharSet Look → Expr Nat Nat :=
  map (fun s => places s.contains t) fun l => places (fun g => l.holds g.1 g.2) (gaps none t)

/-- `n` steps of `f`, or fewer where another step changes nothing. -/
def iterate (f : Nat → Nat) : Nat → Nat → Nat
  | 0, s => s
  | n + 1, s => let s' := f s; if s' = s then s else iterate f n s'

/-- What `n` steps of `f` at most lead to from `s`; `new` is where a further step may lead on. -/
def reach (f : Nat → Nat) : Nat → Nat → Nat → Nat
  | 0, s, _ => s
  | n + 1, s, new =>
    let s' := s ||| f new
    if s' = s then s else reach f n s' (s' ^^^ s)

/-- The places where matches that start in `s` end; `size` is the number of places. -/
def step (size : Nat) : Expr Nat Nat → Nat → Nat
  | .empty, s => s
  | .char at_, s => (s &&& at_) <<< 1
  | .look at_, s => s &&& at_
  | .seq a b, s => step size b (step size a s)
  | .alt a b, s => step size a s ||| step size b s
  | .repeat a times, s =>
    let s := iterate (step size a) times.least s
    let more := match times.most with
      | some m => min (m - times.least) size
      | none => size
    reach (step size a) more s s

/-- Whether some part of the text matches. -/
def search (e : Expr CharSet Look) (t : List Char) : Bool :=
  let size := t.length + 1
  step size (e.locate t) (1 <<< size - 1) != 0

end Expr

end PaneRunner.Regex
