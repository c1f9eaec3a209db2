import PaneRunner.Text.Blank

/-
  Reading a command line: `words` splits it into words at blanks, with quotes and backslashes
  taken off; `commands` splits it at the semicolons outside quotes. `sublist_flatten_words` and
  `sublist_flatten_commands`: both leave characters out and add none.
-/
namespace PaneRunner.Shell

/-- Where a reader of words stands. -/
inductive Reading where
  | plain
  | single
  | double
  | escaped
  deriving DecidableEq, Repr

/-- The word begun so far, with one more character. -/
def extend (cur : Option (List Char)) (c : Char) : Option (List Char) := some (cur.getD [] ++ [c])

/-- The words from here on. `cur` is the word begun, if any; opening a quote begins one. -/
def scanWords : Reading → Option (List Char) → List Char → List (List Char)
  | _, cur, [] => cur.toList
  | .plain, cur, c :: cs =>
    if c = '\x27' then scanWords .single (some (cur.getD [])) cs
    else if c = '\x22' then scanWords .double (some (cur.getD [])) cs
    else if c = '\x5c' then scanWords .escaped (some (cur.getD [])) cs
    else if Text.isBlankChar c then cur.toList ++ scanWords .plain none cs
    else scanWords .plain (extend cur c) cs
  | .single, cur, c :: cs =>
    if c = '\x27' then scanWords .plain cur cs else scanWords .single (extend cur c) cs
  | .double, cur, c :: cs =>
    if c = '\x22' then scanWords .plain cur cs else scanWords .double (extend cur c) cs
  | .escaped, cur, c :: cs => scanWords .plain (extend cur c) cs

/-- The words of a command line, as character lists. -/
def wordsOf (cs : List Char) : List (List Char) := scanWords .plain none cs

/-- The words of a command line. -/
def words (s : String) : List String := (wordsOf s.toList).map .ofList

/-- The commands from here on; `open?` is the quote that is open, `cur` the command so far. -/
def scanCommands : Option Char → List Char → List Char → List (List Char)
  | _, cur, [] => [cur]
  | none, cur, c :: cs =>
    if c = ';' then cur :: scanCommands none [] cs
    else if c = '\x27' ∨ c = '\x22' then scanCommands (some c) (cur ++ [c]) cs
    else scanCommands none (cur ++ [c]) cs
  | some q, cur, c :: cs =>
    if c = q then scanCommands none (cur ++ [c]) cs else scanCommands (some q) (cur ++ [c]) cs

/-- The commands of a command line, cut at the semicolons outside quotes. -/
def commandsOf (cs : List Char) : List (List Char) := scanCommands none [] cs

theorem getD_extend_append (cur : Option (List Char)) (c : Char) (cs : List Char) :
    (extend cur c).getD [] ++ cs = cur.getD [] ++ c :: cs := by
  simp [extend]

theorem sublist_flatten_scanWords (st : Reading) (cur : Option (List Char)) (cs : List Char) :
    (scanWords st cur cs).flatten.Sublist (cur.getD [] ++ cs) := by
  induction cs generalizing st cur with
  | nil => cases st <;> cases cur <;> simp [scanWords]
  | cons c cs ih =>
    have hskip : (cur.getD [] ++ cs).Sublist (cur.getD [] ++ c :: cs) :=
      (List.sublist_cons_self c cs).append_left _
    have htake := fun st => getD_extend_append cur c cs ▸ ih st (extend cur c)
    cases st with
    | plain =>
      simp only [scanWords]
      split
      · exact (ih .single (some (cur.getD []))).trans hskip
      split
      · exact (ih .double (some (cur.getD []))).trans hskip
      split
      · exact (ih .escaped (some (cur.getD []))).trans hskip
      split
      · have hrest := (ih .plain none).cons c
        rw [List.flatten_append]
        cases cur with
        | none => exact hrest
        | some w => simpa using hrest.append_left w
      · exact htake .plain
    | single =>
      simp only [scanWords]
      split
      · exact (ih .plain cur).trans hskip
      · exact htake .single
    | double =>
      simp only [scanWords]
      split
      · exact (ih .plain cur).trans hskip
      · exact htake .double
    | escaped => exact htake .plain

theorem sublist_flatten_words (cs : List Char) : (wordsOf cs).flatten.Sublist cs :=
  sublist_flatten_scanWords .plain none cs

theorem sublist_flatten_scanCommands (q : Option Char) (cur cs : List Char) :
    (scanCommands q cur cs).flatten.Sublist (cur ++ cs) := by
  induction cs generalizing q cur with
  | nil => cases q <;> simp [scanCommands]
  | cons c cs ih =>
    have htake : ∀ q, (scanCommands q (cur ++ [c]) cs).flatten.Sublist (cur ++ c :: cs) := by
      intro q
      simpa using ih q (cur ++ [c])
    cases q with
    | none =>
      simp only [scanCommands]
      split
      · exact ((ih none []).cons c).append_left cur
      split
      · exact htake (some c)
      · exact htake none
    | some q =>
      simp only [scanCommands]
      split
      · exact htake none
      · exact htake (some q)

theorem sublist_flatten_commands (cs : List Char) : (commandsOf cs).flatten.Sublist cs :=
  sublist_flatten_scanCommands none [] cs

end PaneRunner.Shell
