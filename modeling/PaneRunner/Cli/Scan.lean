import PaneRunner.Cli.Grammar
import PaneRunner.Text.Search

/-
  Reading the words of a level. An option stays open until the next thing is met, because the
  next word may be its value; only then is it settled, and its value checked. From the separator
  on, every word is an operand.
-/
namespace PaneRunner.Cli

/-- What a word looks like. -/
inductive Shape where
  /-- the separator -/
  | separator
  /-- the long name of an option, perhaps with a value -/
  | long (name : String) (value : Option String)
  /-- the letters of options, perhaps with a value -/
  | letters (cs : List Char)
  | plain
  deriving DecidableEq, Repr

/-- The shape of a word; a hyphen alone is a word like any other. -/
def Shape.ofWord (w : String) : Shape :=
  match w.toList with
  | ['-', '-'] => .separator
  | '-' :: '-' :: cs =>
    match Text.cutAt? ['='] cs with
    | some (name, value) => .long (.ofList name) (some (.ofList value))
    | none => .long (.ofList cs) none
  | '-' :: c :: cs => .letters (c :: cs)
  | _ => .plain

/-- Values by the names of their options and operands. -/
abbrev Given := List (String × String)

/-- How far the words were read. -/
structure State where
  /-- what was given, the latest first -/
  given : Given := []
  /-- the option met last, and its value -/
  pending : Option (Switch × Option String) := none
  /-- whether no options follow any more -/
  ended : Bool := false
  /-- the number of the next operand -/
  operand : Nat := 0

namespace State

variable (st : State)

/-- Whether the next word is the value of an option. -/
def awaitsValue : Bool :=
  match st.pending with
  | some (_, none) => true
  | _ => false

/-- Note a value down. -/
def note (name value : String) : State := { st with given := (name, value) :: st.given }

/-- Do what an option does. -/
def apply (s : Switch) (value : Option String) : Except Refusal State :=
  match s.role, value with
  | .help, _ => .error .help
  | .version, _ => .error .version
  | .flag, _ =>
    if (st.given.lookup s.name).isSome then .error .conflict else .ok (st.note s.name "")
  | .value _, none => .error .noValue
  | .value accepts, some v =>
    if (st.given.lookup s.name).isSome then .error .conflict
    else if accepts v then .ok (st.note s.name v)
    else .error .badValue

/-- Settle the option met last. -/
def settle : Except Refusal State :=
  match st.pending with
  | none => .ok st
  | some (s, value) => { st with pending := none }.apply s value

/-- Meet an option, perhaps with a value attached. -/
def meet (s : Switch) (attached : Option String) : Except Refusal State :=
  match s.role, attached with
  | .value _, none => do
    let st ← st.settle
    pure { st with pending := some (s, none) }
  | .value _, some v => do (← st.settle).apply s (some v)
  | _, some _ => .error .extraValue
  | _, none => do (← st.settle).apply s none

end State

/-- A value right after a letter; an equals sign in front of it does not count. -/
def attachedValue? : List Char → Option String
  | [] => none
  | '=' :: cs => some (.ofList cs)
  | cs => some (.ofList cs)

namespace Level

variable (lv : Level)

/-- Meet the options of letters. What follows the letter of an option with a value is the value. -/
def meetLetters : List Char → State → Except Refusal State
  | [], st => .ok st
  | c :: cs, st =>
    match lv.ofLetter? c with
    | none => .error .unknownArgument
    | some s =>
      match s.role with
      | .value _ => st.meet s (attachedValue? cs)
      | _ => do meetLetters cs (← st.meet s none)

/-- What is wrong with a word that no operand takes. -/
def surplus (w : String) (st : State) : Refusal :=
  if lv.commands.isEmpty || (st.ended && lv.commands.contains w) then .unknownArgument
  else .unknownCommand

/-- The number of the operand that takes the next word. -/
def nextOperand (st : State) : Nat :=
  if st.ended && lv.isSeparated then lv.operands.length - 1 else st.operand

/-- Take a word as an operand. -/
def takeOperand (w : String) (st : State) : Except Refusal State :=
  let n := lv.nextOperand st
  match lv.operands[n]? with
  | none => .error (lv.surplus w st)
  | some o =>
    if o.extent == .separated && !st.ended then .error .unknownArgument
    else do
      let st ← st.settle
      pure { st.note o.name w with
        operand := if o.extent == .one then n + 1 else n
        ended := st.ended || o.extent == .rest }

/-- Take a word as the value of the option met last, or as an operand. -/
def takeWord (w : String) (st : State) : Except Refusal State :=
  match st.pending with
  | some (s, none) => .ok { st with pending := some (s, some w) }
  | _ => lv.takeOperand w st

/-- Whether a word that looks like an option, but is none, can be an operand. -/
def takesHyphens (st : State) : Bool :=
  match lv.operands[st.operand]? with
  | some o => o.extent == .rest
  | none => false

/-- Read one word. -/
def step (w : String) (st : State) : Except Refusal State :=
  if st.ended then lv.takeOperand w st
  else match Shape.ofWord w with
    | .separator => .ok { st with ended := true }
    | .long name value =>
      match lv.ofName? name with
      | some s => st.meet s value
      | none => if lv.takesHyphens st then lv.takeWord w st else .error .unknownArgument
    | .letters cs =>
      if lv.takesHyphens st && cs.any fun c => (lv.ofLetter? c).isNone then lv.takeWord w st
      else lv.meetLetters cs st
    | .plain => lv.takeWord w st

/-- Read words until the name of a command is met: the state there, the name, and the words after
it. -/
def scan : List String → State → Except Refusal (State × Option (String × List String))
  | [], st => .ok (st, none)
  | w :: ws, st =>
    if lv.commands.contains w && !st.ended && !st.awaitsValue then .ok (st, some (w, ws))
    else do scan ws (← lv.step w st)

/-- Whether two options that exclude each other were given. -/
def clashes (g : Given) : Bool :=
  lv.exclusive.any fun (a, b) => (g.lookup a).isSome && (g.lookup b).isSome

/-- What was given once all words are read, the first one first. -/
def finish (st : State) : Except Refusal Given := do
  let st ← st.settle
  if lv.clashes st.given then throw .conflict
  pure st.given.reverse

end Level

end PaneRunner.Cli
