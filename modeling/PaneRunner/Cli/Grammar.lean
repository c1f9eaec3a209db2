/-
  What a command line may hold: options, which are named, and operands, which are told by their
  order. A level is what may stand before the name of a command, or after it.
-/
namespace PaneRunner.Cli

/-- Why a command line is not carried out. -/
inductive Refusal where
  /-- help is asked for -/
  | help
  /-- the version is asked for -/
  | version
  /-- nothing is asked for -/
  | nothing
  /-- options, but no command -/
  | noCommand
  | unknownCommand
  | unknownArgument
  | missingArgument
  /-- an option twice, or two that exclude each other -/
  | conflict
  /-- an option without its value -/
  | noValue
  /-- a value for an option that has none -/
  | extraValue
  /-- a value that the option does not accept -/
  | badValue
  deriving DecidableEq, Repr

/-- The exit code after a refusal: to show help or the version is what was asked for. -/
def Refusal.exitCode : Refusal → Nat
  | .help | .version => 0
  | _ => 2

/-- What an option does. -/
inductive Role where
  /-- it has a value -/
  | value (accepts : String → Bool)
  /-- it is there or not -/
  | flag
  | help
  | version

/-- An option: its long name, its letter, if it has one, and what it does. -/
structure Switch where
  name : String
  letter : Option Char := none
  role : Role

/-- Which words an operand takes. -/
inductive Extent where
  /-- one word -/
  | one
  /-- this word and all words after it, whatever they look like -/
  | rest
  /-- all words after the separator -/
  | separated
  deriving DecidableEq, Repr

structure Operand where
  name : String
  extent : Extent := .one
  deriving DecidableEq, Repr

/-- What may stand at one place of a command line. -/
structure Level where
  switches : List Switch := []
  operands : List Operand := []
  /-- the names of the commands that may follow -/
  commands : List String := []
  /-- the names of options that exclude each other -/
  exclusive : List (String × String) := []

namespace Level

variable (lv : Level)

/-- The option of a long name. -/
def ofName? (name : String) : Option Switch := lv.switches.find? fun s => s.name == name

/-- The option of a letter. -/
def ofLetter? (c : Char) : Option Switch := lv.switches.find? fun s => s.letter == some c

/-- Whether some words are set apart by the separator. -/
def isSeparated : Bool := lv.operands.any fun o => o.extent == .separated

end Level

end PaneRunner.Cli
