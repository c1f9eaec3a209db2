import PaneRunner.Text.Blank
import PaneRunner.Text.Decimal
import PaneRunner.Text.Search

/-
  Spans of time in whole nanoseconds, and how they are written. A written duration is a number
  and a unit: "250ms", "2s", "5m", "1h", "1d", or a bare number of seconds. `render` picks the
  largest of hours, minutes and seconds that divides the span; it shows milliseconds below one
  second, and three places where seconds do not come out even.
-/
namespace PaneRunner

/-- A span of time, or a point on a clock that starts at zero. -/
structure Duration where
  nanos : Nat
  deriving DecidableEq, Repr

namespace Duration

def zero : Duration := ⟨0⟩

def ofSecs (n : Nat) : Duration := ⟨n * 1000000000⟩

def ofMillis (n : Nat) : Duration := ⟨n * 1000000⟩

instance : Add Duration := ⟨fun a b => ⟨a.nanos + b.nanos⟩⟩

instance : Sub Duration := ⟨fun a b => ⟨a.nanos - b.nanos⟩⟩

instance : LE Duration := ⟨fun a b => a.nanos ≤ b.nanos⟩

instance : LT Duration := ⟨fun a b => a.nanos < b.nanos⟩

instance (a b : Duration) : Decidable (a ≤ b) := inferInstanceAs (Decidable (a.nanos ≤ b.nanos))

instance (a b : Duration) : Decidable (a < b) := inferInstanceAs (Decidable (a.nanos < b.nanos))

@[simp] theorem nanos_add (a b : Duration) : (a + b).nanos = a.nanos + b.nanos := rfl

@[simp] theorem nanos_sub (a b : Duration) : (a - b).nanos = a.nanos - b.nanos := rfl

theorem le_def {a b : Duration} : a ≤ b ↔ a.nanos ≤ b.nanos := Iff.rfl

theorem lt_def {a b : Duration} : a < b ↔ a.nanos < b.nanos := Iff.rfl

/-- The whole seconds. -/
def secs (d : Duration) : Nat := d.nanos / 1000000000

/-- The nanoseconds beyond the whole seconds. -/
def subsecNanos (d : Duration) : Nat := d.nanos % 1000000000

/-- The whole milliseconds beyond the whole seconds. -/
def subsecMillis (d : Duration) : Nat := d.nanos % 1000000000 / 1000000

/-- The whole milliseconds. -/
def millis (d : Duration) : Nat := d.nanos / 1000000

/-- The text of a duration in messages. -/
def render (d : Duration) : String :=
  let s := d.secs
  let ms := d.subsecMillis
  if s = 0 then Text.Decimal.ofNat ms ++ "ms"
  else if ms = 0 then
    if s % 3600 = 0 then Text.Decimal.ofNat (s / 3600) ++ "h"
    else if s % 60 = 0 then Text.Decimal.ofNat (s / 60) ++ "m"
    else Text.Decimal.ofNat s ++ "s"
  else Text.Decimal.ofNat s ++ "." ++ Text.Decimal.padded 3 ms ++ "s"

/-- The units that a written duration may have. -/
inductive Unit where
  | millis
  | secs
  | mins
  | hours
  | days
  deriving DecidableEq, Repr

/-- The unit that a single letter names. -/
def Unit.ofLetter? : Char → Option Unit
  | 's' => some .secs
  | 'm' => some .mins
  | 'h' => some .hours
  | 'd' => some .days
  | _ => none

/-- `n` of a unit; minutes, hours and days must stay below 2^64 seconds. -/
def Unit.times? (u : Unit) (n : Nat) : Option Duration :=
  let bounded (secs : Nat) : Option Duration :=
    if secs < 1 <<< 64 then some (ofSecs secs) else none
  match u with
  | .millis => some (ofMillis n)
  | .secs => some (ofSecs n)
  | .mins => bounded (n * 60)
  | .hours => bounded (n * 3600)
  | .days => bounded (n * 86400)

/-- The digits and the unit of a written duration; a text that does not end in a letter is in
seconds. -/
def splitUnit? (cs : List Char) : Option (List Char × Unit) :=
  match cs.reverse with
  | [] => none
  | 's' :: 'm' :: rest => some (rest.reverse, .millis)
  | c :: rest =>
    if c.isAlpha then (Unit.ofLetter? c).map fun u => (rest.reverse, u) else some (cs, .secs)

/-- Read a written duration, blanks around it and letter case aside. -/
def parse? (s : String) : Option Duration := do
  let (ds, u) ← splitUnit? (Text.lower (Text.trim s)).toList
  let n ← Text.Decimal.unsigned? (1 <<< 64) ds
  u.times? n

end Duration

end PaneRunner
