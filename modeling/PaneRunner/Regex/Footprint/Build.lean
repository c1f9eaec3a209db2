import PaneRunner.Regex.Reduced

/-
  Building the automaton of a pattern, as far as its size goes. A state takes a fixed number of
  bytes; a state that tells ranges of bytes apart takes more for each range, and a fork, which
  leads on to several states, takes more for each of them. Building fails as soon as the states
  take more than `limit` bytes.
-/
namespace PaneRunner.Regex.Footprint

/-- The most bytes that the states of an automaton may take. -/
def limit : Nat := 10485760

/-- The states made so far, which are numbered from zero, and the bytes they take beside their
own. -/
structure Build where
  states : Nat := 0
  extra : Nat := 0

/-- The bytes of all states. -/
def Build.bytes (b : Build) : Nat := 32 * b.states + b.extra

/-- A step of building. -/
abbrev Making := StateT Build Option

/-- Some more states, with what they take beside. -/
def grow (states extra : Nat) : Making Unit := do
  let b ← get
  let b : Build := ⟨b.states + states, b.extra + extra⟩
  if b.bytes ≤ limit then set b else failure

/-- A state that leads to one other. -/
def state : Making Unit := grow 1 0

/-- A state with ranges of bytes; its number. -/
def branching (ranges : Nat) : Making Nat := do
  let b ← get
  grow 1 (8 * ranges)
  pure b.states

/-- Another way out of a fork. -/
def way : Making Unit := grow 0 4

/-- The last state of a part. -/
inductive Exit where
  | plain
  | fork
  deriving DecidableEq, Repr

/-- Lead on from the end of a part. -/
def Exit.link : Exit → Making Unit
  | .plain => pure ()
  | .fork => way

/-- A part of an automaton being built. -/
abbrev Part := Making Exit

/-- A single state. -/
def single : Part := do
  state
  pure .plain

/-- More parts after one that ends in `exit`. -/
def chainFrom (exit : Exit) : List Part → Part
  | [] => pure exit
  | p :: ps => do
    let next ← p
    exit.link
    chainFrom next ps

/-- Parts one after another. -/
def chain : List Part → Part
  | [] => single
  | p :: ps => do chainFrom (← p) ps

/-- `n` more copies of a part after one that ends in `exit`. -/
def copiesFrom (p : Part) : Nat → Exit → Part
  | 0, exit => pure exit
  | n + 1, exit => do
    let next ← p
    exit.link
    copiesFrom p n next

/-- `n` copies of a part. -/
def copies (p : Part) : Nat → Part
  | 0 => single
  | n + 1 => do copiesFrom p n (← p)

/-- `n` copies more, each of which may be the last: before each stands a fork that also leads past
all of them. -/
def options (p : Part) : Nat → Exit → Part
  | 0, exit => pure exit
  | n + 1, exit => do
    state
    let next ← p
    exit.link
    way
    way
    options p n next

/-- A part that may be left out. -/
def optional (p : Part) : Part := do
  state
  let exit ← p
  state
  way
  way
  exit.link
  pure .plain

/-- A part and a fork after it that leads back into it. -/
def loop (p : Part) : Part := do
  let exit ← p
  state
  exit.link
  way
  pure .fork

/-- Any number of copies of a part. One that takes up characters can start and end in the same
fork. -/
def many (p : Part) (consumes : Bool) : Part :=
  if consumes then do
    state
    let exit ← p
    way
    exit.link
    pure .fork
  else do
    let _ ← loop p
    grow 2 12
    pure .plain

/-- A part repeated. -/
def repeated (p : Part) (consumes : Bool) : Times → Part
  | ⟨0, some 1⟩ => optional p
  | ⟨0, none⟩ => many p consumes
  | ⟨n + 1, none⟩ =>
    match n with
    | 0 => loop p
    | n => do
      let exit ← copies p n
      let last ← loop p
      exit.link
      pure last
  | ⟨least, some most⟩ => do
    let exit ← copies p least
    if least = most then return exit
    state
    let exit ← options p (most - least) exit
    exit.link
    pure .plain

/-- A part between a state that keeps where it starts and one that keeps where it ends. -/
def captured (p : Part) : Part := do
  state
  let exit ← p
  state
  exit.link
  pure .plain

/-- A branch of a choice, built: the fork before it leads into it, and it leads to the end. -/
def join (exit : Exit) : Making Unit := do
  way
  exit.link

/-- One of some parts. -/
def choose : List Part → Part
  | [] => single
  | [p] => p
  | p :: q :: ps => do
    let exit ← p
    let exit' ← q
    grow 2 0
    join exit
    join exit'
    ps.forM fun p => do join (← p)
    pure .plain

end PaneRunner.Regex.Footprint
