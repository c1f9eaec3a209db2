/-
  Cutting a list at a separator, and putting the pieces back. `joinWith_pieces`: the pieces of a
  list, joined by their separator, are the list. The lines of a text are its pieces at the
  newlines, less the carriage return before a newline; `fileLines` keeps every carriage return.
-/
namespace PaneRunner.Text

/-- The pieces between the separators, at least one. -/
def pieces {α : Type} [DecidableEq α] (sep : α) : List α → List (List α)
  | [] => [[]]
  | c :: cs =>
    if c = sep then [] :: pieces sep cs
    else match pieces sep cs with
      | [] => [[c]]
      | p :: ps => (c :: p) :: ps

/-- The pieces with `sep` between any two of them. -/
def joinWith {α : Type} (sep : List α) : List (List α) → List α
  | [] => []
  | [p] => p
  | p :: q :: ps => p ++ sep ++ joinWith sep (q :: ps)

theorem pieces_ne_nil {α : Type} [DecidableEq α] (sep : α) (cs : List α) :
    pieces sep cs ≠ [] := by
  cases cs with
  | nil => simp [pieces]
  | cons c cs =>
    simp only [pieces]
    split
    · simp
    · split <;> simp

theorem joinWith_pieces {α : Type} [DecidableEq α] (sep : α) (cs : List α) :
    joinWith [sep] (pieces sep cs) = cs := by
  induction cs with
  | nil => rfl
  | cons c cs ih =>
    have hne := pieces_ne_nil sep cs
    cases hp : pieces sep cs with
    | nil => exact absurd hp hne
    | cons p ps =>
      rw [hp] at ih
      by_cases hc : c = sep
      · simp [pieces, hc, hp, joinWith, ih]
      · simp only [pieces, hc, if_false, hp]
        cases ps with
        | nil => simpa [joinWith] using ih
        | cons q qs => simpa [joinWith] using ih

/-- Less one carriage return at the end. -/
def dropReturn (cs : List Char) : List Char :=
  if cs.getLast? = some '\r' then cs.dropLast else cs

/-- The lines of a text. A newline ends a line and takes one carriage return before it along;
what follows the last newline is a line unless it is empty. -/
def rows (cs : List Char) : List (List Char) :=
  let ps := pieces '\n' cs
  ps.dropLast.map dropReturn ++ (match ps.getLast? with
    | some [] => []
    | some rest => [rest]
    | none => [])

/-- The lines of a text. -/
def lines (s : String) : List String := (rows s.toList).map .ofList

/-- Every line with a newline after it. -/
def unlines (ls : List String) : String := ls.foldr (fun l rest => l ++ "\n" ++ rest) ""

/-- The texts with `sep` between any two of them. -/
def join (sep : String) (ts : List String) : String :=
  .ofList (joinWith sep.toList (ts.map String.toList))

end PaneRunner.Text
