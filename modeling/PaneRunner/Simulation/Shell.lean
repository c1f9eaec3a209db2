import PaneRunner.Shell.Words
import PaneRunner.Text.Pieces

/-
  The shell of the simulated panes. It knows `echo`, and `bash -c` and `sh -c` with a script of
  its own; any other command runs without a word. `run_eq` is its equation.
-/
namespace PaneRunner.Simulation.Shell

open PaneRunner.Shell

/-- Every `a` followed by `b`, from the left, turned into `new`. -/
def replacePair (a b new : Char) : List Char → List Char
  | x :: y :: rest =>
    if x = a ∧ y = b then new :: replacePair a b new rest else x :: replacePair a b new (y :: rest)
  | rest => rest

/-- What `echo -e` makes of its text. -/
def unescape (cs : List Char) : List Char :=
  replacePair '\x5c' '\x5c' '\x5c' (replacePair '\x5c' 't' '\t' (replacePair '\x5c' 'n' '\n' cs))

/-- How `echo` prints. -/
structure EchoStyle where
  newline : Bool := true
  escapes : Bool := false

/-- What one letter of a flag changes. -/
def EchoStyle.set (style : EchoStyle) : Char → EchoStyle
  | 'n' => { style with newline := false }
  | 'e' => { style with escapes := true }
  | _ => { style with escapes := false }

/-- The letters of a flag of `echo`. -/
def echoFlag? : List Char → Option (List Char)
  | '-' :: c :: cs =>
    if (c :: cs).all fun x => x == 'n' || x == 'e' || x == 'E' then some (c :: cs) else none
  | _ => none

/-- What `echo` prints; the flags end at the first word that is none. -/
def echo (style : EchoStyle) : List (List Char) → List Char
  | [] => if style.newline then ['\n'] else []
  | w :: ws =>
    match echoFlag? w with
    | some letters => echo (letters.foldl EchoStyle.set style) ws
    | none =>
      let text := Text.joinWith [' '] (w :: ws)
      (if style.escapes then unescape text else text) ++ if style.newline then ['\n'] else []

/-- What a command does. -/
inductive Command where
  | echo (args : List (List Char))
  | script (text : List Char)
  | silent

/-- The command that words spell. -/
def Command.ofWords : List (List Char) → Command
  | [] => .silent
  | w :: args =>
    if w = "echo".toList then .echo args
    else if w = "bash".toList ∨ w = "sh".toList then
      match args with
      | flag :: text :: _ => if flag = "-c".toList then .script text else .silent
      | _ => .silent
    else .silent

/-- A script is the third word, behind the name of a shell and a flag. -/
theorem Command.exists_of_script {ws : List (List Char)} {text : List Char}
    (h : Command.ofWords ws = .script text) :
    ∃ name flag rest, (name = "bash".toList ∨ name = "sh".toList) ∧
      ws = name :: flag :: text :: rest := by
  unfold Command.ofWords at h
  split at h
  · cases h
  · rename_i w args
    split at h
    · cases h
    split at h
    · rename_i hw
      split at h
      · rename_i flag t rest
        split at h
        · cases h
          exact ⟨w, flag, rest, hw, rfl⟩
        · cases h
      · cases h
    · cases h

theorem Command.length_of_script {ws : List (List Char)} {text : List Char}
    (h : Command.ofWords ws = .script text) : text.length < ws.flatten.length := by
  obtain ⟨name, flag, rest, hname, rfl⟩ := Command.exists_of_script h
  have hpos : 0 < name.length := by rcases hname with rfl | rfl <;> decide
  simp only [List.flatten_cons, List.length_append]
  omega

theorem length_le_flatten {p : List Char} {ps : List (List Char)} (h : p ∈ ps) :
    p.length ≤ ps.flatten.length := by
  induction ps with
  | nil => cases h
  | cons q ps ih =>
    simp only [List.flatten_cons, List.length_append]
    rcases List.mem_cons.1 h with rfl | h
    · omega
    · have := ih h; omega

theorem length_script_lt {cs part text : List Char} (hp : part ∈ commandsOf cs)
    (h : Command.ofWords (wordsOf part) = .script text) : text.length < cs.length := by
  have h1 := Command.length_of_script h
  have h2 := (sublist_flatten_words part).length_le
  have h3 := length_le_flatten hp
  have h4 := (sublist_flatten_commands cs).length_le
  omega

/-- What a script prints. -/
def run (cs : List Char) : List Char :=
  (commandsOf cs).attach.flatMap fun ⟨part, _⟩ =>
    match _h : Command.ofWords (wordsOf part) with
    | .echo args => echo {} args
    | .script text => run text
    | .silent => []
termination_by cs.length
decreasing_by exact length_script_lt (by assumption) (by assumption)

/-- What one command prints. -/
def perform : Command → List Char
  | .echo args => echo {} args
  | .script text => run text
  | .silent => []

theorem run_eq (cs : List Char) :
    run cs = (commandsOf cs).flatMap fun part => perform (Command.ofWords (wordsOf part)) := by
  rw [run, List.flatMap_subtype (g := fun part => perform (Command.ofWords (wordsOf part)))]
  · simp
  · intro x hx
    show _ = perform _
    unfold perform
    split
    split <;> simp_all

end PaneRunner.Simulation.Shell
