import Mathlib.Data.List.DropRight
import PaneRunner.Cli.Perform
import PaneRunner.Proofs.Text.Utf8
import PaneRunner.Proofs.Trace.Results
import PaneRunner.Proofs.Trace.Typing
import PaneRunner.Proofs.Trace.Window

/-
  The ways to look at a window. All of them ask for the scrollback once, and take it as the executor
  answers (`trace_of_captured`). They tell of it what is shown: its lines without the blank ones at
  the end (`shown_of_captured`). To show the last lines of a window is to print the last lines of
  what is printed when all of it is shown (`printsLast_printed`), whatever ends a line on the screen:
  a line of what is printed is what stands before a newline, carriage returns included.
-/
namespace PaneRunner.Text

/-- The lines with a newline after each are the lines and an empty one with newlines between them. -/
theorem unlines_eq_join (ls : List String) : unlines ls = join "\n" (ls ++ [""]) := by
  have key : ∀ ps : List (List Char), joinWith ['\n'] (ps ++ [[]]) = ps.flatMap (· ++ ['\n']) := by
    intro ps
    induction ps with
    | nil => rfl
    | cons p ps ih =>
      rw [List.flatMap_cons, ← ih, List.cons_append]
      cases ps <;> rfl
  rw [← String.toList_inj, toList_unlines, join, String.toList_ofList, List.map_append]
  exact (List.flatMap_map ..).symm.trans (key _).symm

theorem encode_unlines (ls : List String) :
    Utf8.encode (unlines ls) = (ls.map Utf8.encode).flatMap (· ++ [10]) := by
  induction ls with
  | nil => rfl
  | cons l ls ih =>
    rw [List.map_cons, List.flatMap_cons, ← ih]
    change Utf8.encode (l ++ "\n" ++ unlines ls) = _
    rw [Utf8.encode_append, Utf8.encode_append]
    rfl

/-- Texts without newlines, with a newline after each, are the lines of a file. -/
theorem fileLines_unlines {ls : List String} (h : ∀ l ∈ ls, '\n' ∉ l.toList) :
    Exec.fileLines (Utf8.encode (unlines ls)) = ls.map Utf8.encode := by
  induction ls with
  | nil => rfl
  | cons l ls ih =>
    obtain ⟨hl, hls⟩ := List.forall_mem_cons.1 h
    rw [encode_unlines, List.map_cons, List.flatMap_cons, ← encode_unlines, List.append_assoc,
      List.singleton_append, fileLines_line (mt Utf8.newline_mem_encode_iff.1 hl), ih hls]

end PaneRunner.Text

namespace PaneRunner.Tmux

open Text

/-! ## What a text shows -/

section Raw

variable {raw : String}

theorem shownLines_append_blanks (raw : String) :
    shownLines raw ++ (lines raw).rtakeWhile isBlank = lines raw :=
  List.rdropWhile_append_rtakeWhile

theorem newline_not_mem_shownLines {l : String} (h : l ∈ shownLines raw) : '\n' ∉ l.toList :=
  newline_not_mem_of_mem_lines ((List.rdropWhile_prefix isBlank (lines raw)).subset h)

theorem shown_of_captured (raw : String) :
    (∃ blanks, lines raw = shownLines raw ++ blanks ∧ ∀ l ∈ blanks, isBlank l = true) ∧
      (∀ l, (shownLines raw).getLast? = some l → isBlank l = false) ∧
      shownText raw = join "\n" (shownLines raw ++ [""]) ∧
      (shownText raw).toList = (shownLines raw).flatMap fun l => l.toList ++ ['\n'] := by
  refine ⟨⟨_, (shownLines_append_blanks raw).symm, fun l => List.mem_rtakeWhile_imp⟩,
    fun l hl => ?_, unlines_eq_join _, toList_unlines _⟩
  rw [getLast?_shownLines] at hl
  exact isBlank_of_lastShown hl

/-- The last line shown has nothing but blank lines below it. -/
theorem exists_of_lastShown {l : String} (h : lastShown raw = some l) :
    ∃ above below, lines raw = above ++ l :: below ∧ ∀ l' ∈ below, isBlank l' = true := by
  have hshown := List.dropLast_append_getLast? l ((getLast?_shownLines raw).trans h)
  refine ⟨(shownLines raw).dropLast, (lines raw).rtakeWhile isBlank, ?_,
    fun l' => List.mem_rtakeWhile_imp⟩
  rw [List.append_cons, hshown, shownLines_append_blanks]

theorem lastShown_eq_none_iff : lastShown raw = none ↔ ∀ l ∈ lines raw, isBlank l = true := by
  simp [lastShown]

end Raw

/-! ## The last lines -/

variable {ls : List String} {n : Nat}

theorem length_lastLines (ls : List String) (n : Nat) :
    (lastLines ls n).length = min n ls.length := by
  rw [lastLines, List.length_drop]
  omega

theorem lastLines_of_le (h : ls.length ≤ n) : lastLines ls n = ls := by
  rw [lastLines, Nat.sub_eq_zero_of_le h, List.drop_zero]

end PaneRunner.Tmux

namespace PaneRunner.Plan

/-- The scrollback of a window is what the executor answers to its capture, decoded. -/
theorem Traces.of_rawOutput {cfg : Tmux.Settings} {w : Tmux.Window}
    {t : List (Exchange Exec.Answer)} {raw : String}
    (h : Traces (w.rawOutput cfg).run t (some (.ok raw))) :
    ∃ o : Exec.Output, t = [⟨.run (w.capture cfg), .ok o⟩] ∧ raw = o.stdoutText := by
  have hcall : Traces (cfg.tmux (Tmux.captureArgs w.target) >>= fun o => pure o.stdoutText).run t
      (some (.ok raw)) := h
  obtain ⟨o, t', rfl, hrest⟩ := Tmux.Window.of_call_ok hcall
  obtain ⟨rfl, hraw⟩ := of_pure hrest
  cases hraw
  exact ⟨o, rfl, rfl⟩

end PaneRunner.Plan

namespace PaneRunner.Cli

/-! ## Commands that show a window -/

/-- One report prints the last `k` lines of what another prints. -/
def Report.PrintsLast (last whole : Report) (k : Nat) : Prop :=
  ∃ above below, Exec.fileLines whole.stdout = above ++ below ∧ below.length = k ∧
    last = { whole with stdout := below.flatMap (· ++ [10]) }

theorem Report.PrintsLast.eq_drop {last whole : Report} {k : Nat} (h : last.PrintsLast whole k) :
    last = { whole with
      stdout := ((Exec.fileLines whole.stdout).drop ((Exec.fileLines whole.stdout).length - k)).flatMap
        (· ++ [10]) } := by
  obtain ⟨above, below, hlines, hlength, rfl⟩ := h
  have habove : (above ++ below).length - k = above.length := by
    rw [List.length_append]
    omega
  rw [hlines, habove, List.drop_left]

/-- What is printed of a scrollback. -/
def printed (raw : String) : Option Nat → String
  | none => Tmux.shownText raw
  | some n => Text.unlines (Tmux.lastLines (Tmux.shownLines raw) n)

theorem printsLast_printed (raw : String) (n : Nat) :
    (Report.text (printed raw (some n))).PrintsLast (.text (Tmux.shownText raw))
      (min n (Tmux.shownLines raw).length) := by
  refine ⟨((Tmux.shownLines raw).take ((Tmux.shownLines raw).length - n)).map Text.Utf8.encode,
    (Tmux.lastLines (Tmux.shownLines raw) n).map Text.Utf8.encode, ?_, ?_, ?_⟩
  · rw [Tmux.lastLines, ← List.map_append, List.take_append_drop]
    simp only [Report.text, Tmux.shownText]
    exact Text.fileLines_unlines fun l hl => Tmux.newline_not_mem_shownLines hl
  · rw [List.length_map, Tmux.length_lastLines]
  · rw [← Text.encode_unlines]
    simp only [Report.text, printed]

example : printed "one\r\n\ntwo\r\r\n\u3000\r\n\n" (some 2) = "\ntwo\r\n" := by decide +kernel

theorem printed_of_le {raw : String} {n : Nat} (h : (Tmux.shownLines raw).length ≤ n) :
    printed raw (some n) = Tmux.shownText raw := by
  simp only [printed, Tmux.lastLines_of_le h, Tmux.shownText]

theorem Task.ofAction_bind {α β : Type} (x : Tmux.Action α) (f : α → Tmux.Action β) :
    Task.ofAction (x >>= f) = Task.ofAction x >>= fun a => Task.ofAction (f a) := by
  change Plan.bind (Plan.bind _ _) _ = Plan.bind (Plan.bind _ _) _
  rw [Plan.bind_assoc, Plan.bind_assoc]
  congr 1
  funext r
  cases r <;> rfl

theorem Task.ofAction_bind_pure {α β : Type} (x : Tmux.Action α) (f : α → β) :
    Task.ofAction (x >>= fun a => pure (f a)) = Task.ofAction x >>= fun a => pure (f a) :=
  ofAction_bind x fun a => pure (f a)

variable (cfg : Tmux.Settings) (session name : String) (w : Tmux.Window) (n : Nat)

/-- The scrollback of a window, for a command that shows it. -/
def captured : Task String := do
  let _ ← Task.ofAction cfg.version
  let w ← Task.window session name
  Task.ofAction (w.rawOutput cfg)

/-- An action that runs as a task asks the same, and comes to a value when the action does. -/
theorem Task.run_ofAction_eq_ok {α σ : Type} {ex : Executor Exec.Answer σ} {b : Bounds} {c : Timed σ}
    {x : Tmux.Action α} {a : α} (h : (Plan.run ex b (Task.ofAction x).run c).1 = some (.ok a)) :
    Plan.Traces x.run (Plan.trace ex b (Task.ofAction x).run c) (some (.ok a)) := by
  change (Plan.run ex b (Plan.bind x.run _) c).1 = _ at h
  change Plan.Traces _ (Plan.trace ex b (Plan.bind x.run _) c) _
  rw [Plan.run_map] at h
  rw [Plan.trace_map]
  obtain ⟨r, hrun, hr⟩ := Option.map_eq_some_iff.1 h
  cases r with
  | error e => cases hr
  | ok a' =>
    cases hr
    exact hrun ▸ Plan.traces_run ex b x.run c

/-- A scrollback that was captured is what the executor answered to the window's capture, decoded. -/
theorem trace_of_captured {σ : Type} {ex : Executor Exec.Answer σ} {b : Bounds} {c : Timed σ}
    {raw : String} (h : (Plan.run ex b (captured cfg session name).run c).1 = some (.ok raw)) :
    ∃ w version o, Tmux.Window.ofNames session name = .ok w ∧
      Plan.trace ex b (captured cfg session name).run c =
        [⟨Tmux.Window.call cfg ["-V"], .ok version⟩, ⟨.run (w.capture cfg), .ok o⟩] ∧
      raw = o.stdoutText := by
  have haction : captured cfg session name = Task.ofAction (do
      let _ ← cfg.version
      let w ← Tmux.Action.ofExcept (Tmux.Window.ofNames session name)
      w.rawOutput cfg) := by
    simp only [captured, Task.window, Task.ofAction_bind]
  rw [haction] at h ⊢
  have htraces := Task.run_ofAction_eq_ok h
  generalize Plan.trace ex b _ c = t at htraces ⊢
  rw [Tmux.Settings.version, bind_assoc] at htraces
  obtain ⟨version, t', htrace, hrest⟩ := Tmux.Window.of_call_ok htraces
  rw [pure_bind] at hrest
  rcases hrest.of_ofExcept_seq with ⟨_, _, _, hfailed⟩ | ⟨w, hw, hraw⟩
  · cases hfailed
  obtain ⟨o, rfl, rfl⟩ := hraw.of_rawOutput
  exact ⟨w, version, o, hw, htrace, rfl⟩

theorem perform_view (count : Option Nat) :
    ((Command.view session name count).perform cfg).run =
      (captured cfg session name).run.bind fun r =>
        .done (r.map fun raw => .text (printed raw count)) := by
  have hviewed : ∀ w, viewed cfg w count =
      Task.ofAction (w.rawOutput cfg) >>= fun raw => pure (.text (printed raw count)) := by
    intro w
    cases count with
    | none =>
      simp only [viewed, Tmux.Window.shownOutput, Task.ofAction_bind_pure, bind_assoc, pure_bind,
        printed]
    | some n =>
      simp only [viewed, Tmux.Window.lines, Task.ofAction_bind_pure, bind_assoc, pure_bind, printed]
  rw [← Plan.run_bind_pure]
  simp only [Command.perform, Command.task, captured, hviewed, bind_assoc]

theorem latestLine_eq :
    (w.latestLine cfg).run =
      (w.rawOutput cfg).run.bind fun r => .done (r.map fun raw => (Tmux.lastShown raw).getD "") := by
  simp only [Tmux.Window.latestLine, Tmux.Window.lines, bind_assoc, pure_bind,
    Tmux.fromBottom_shownLines, Plan.run_bind_pure]

/-- The ways to look at a window agree. The lines of a captured text are those shown and blank lines
below them, the last line shown is not blank, and the text shown is the lines shown with a newline
after each. With every executor, the command that shows a window and the one that shows its last `n`
lines go as the reading of its scrollback does: the one prints the text shown, and the other the last
`n` of its lines, or the same if there are no more. The latest line is the last that is not blank, and
empty if there is none. The scrollback is what the executor answers to the window's capture, decoded,
and that is the last that is asked. -/
theorem views_agree :
    (∀ raw : String,
      (∃ blanks, Text.lines raw = Tmux.shownLines raw ++ blanks ∧
        ∀ l ∈ blanks, Text.isBlank l = true) ∧
      (∀ l, (Tmux.shownLines raw).getLast? = some l → Text.isBlank l = false) ∧
      Tmux.shownText raw = Text.join "\n" (Tmux.shownLines raw ++ [""]) ∧
      (Tmux.shownText raw).toList = (Tmux.shownLines raw).flatMap fun l => l.toList ++ ['\n']) ∧
    Plan.Alike (fun raw report => report = .text (Tmux.shownText raw))
      (captured cfg session name).run ((Command.view session name none).perform cfg).run ∧
    Plan.Alike
      (fun raw report =>
        report.PrintsLast (.text (Tmux.shownText raw)) (min n (Tmux.shownLines raw).length) ∧
          ((Tmux.shownLines raw).length ≤ n → report = .text (Tmux.shownText raw)))
      (captured cfg session name).run ((Command.view session name (some n)).perform cfg).run ∧
    Plan.Alike
      (fun raw line =>
        (line = "" ↔ ∀ l ∈ Text.lines raw, Text.isBlank l = true) ∧
          (line ≠ "" → ∃ above below, Text.lines raw = above ++ line :: below ∧
            Text.isBlank line = false ∧ ∀ l ∈ below, Text.isBlank l = true))
      (w.rawOutput cfg).run (w.latestLine cfg).run ∧
    (∀ {σ : Type} (ex : Executor Exec.Answer σ) (b : Bounds) (c : Timed σ) (raw : String),
      ((Plan.run ex b (captured cfg session name).run c).1 = some (.ok raw) →
        ∃ w version o, Tmux.Window.ofNames session name = .ok w ∧
          Plan.trace ex b (captured cfg session name).run c =
            [⟨Tmux.Window.call cfg ["-V"], .ok version⟩, ⟨.run (w.capture cfg), .ok o⟩] ∧
          raw = o.stdoutText) ∧
      ((Plan.run ex b (w.rawOutput cfg).run c).1 = some (.ok raw) →
        ∃ o : Exec.Output, Plan.trace ex b (w.rawOutput cfg).run c =
          [⟨.run (w.capture cfg), .ok o⟩] ∧ raw = o.stdoutText)) := by
  rw [perform_view, perform_view, latestLine_eq]
  refine ⟨Tmux.shown_of_captured, Plan.alike_map _ fun raw => ?_, Plan.alike_map _ fun raw => ?_,
    Plan.alike_map _ fun raw => ?_, fun ex b c raw => ⟨trace_of_captured cfg session name, fun h =>
      Plan.Traces.of_rawOutput (h ▸ Plan.traces_run ex b _ c)⟩⟩
  · simp only [printed]
  · exact ⟨printsLast_printed raw n, fun h => congrArg Report.text (printed_of_le h)⟩
  rcases hlast : Tmux.lastShown raw with _ | line
  · exact ⟨⟨fun _ => Tmux.lastShown_eq_none_iff.1 hlast, fun _ => rfl⟩, fun h => absurd rfl h⟩
  have hline := Tmux.isBlank_of_lastShown hlast
  obtain ⟨above, below, hlines, hbelow⟩ := Tmux.exists_of_lastShown hlast
  refine ⟨⟨?_, fun hall => ?_⟩, fun _ => ⟨above, below, hlines, hline, hbelow⟩⟩
  · rintro rfl
    cases hline
  · rw [Tmux.lastShown_eq_none_iff.2 hall] at hlast
    cases hlast

/-- A screen that shows three lines, one of them blank, with a blank line below them. -/
theorem views_agree_three :
    let cfg : Tmux.Settings := { marker := "M" }
    let ex := Tmux.Window.still "one\r\n\u3000\ntwo\n\n" "" (.ok ())
    let b : Bounds := { checks := 1 }
    let c : Timed Unit := ⟨(), .zero⟩
    (∃ w version o, Tmux.Window.ofNames "s" "w" = .ok w ∧
      Plan.trace ex b (captured cfg "s" "w").run c =
        [⟨Tmux.Window.call cfg ["-V"], .ok version⟩, ⟨.run (w.capture cfg), .ok o⟩] ∧
      "one\r\n\u3000\ntwo\n\n" = o.stdoutText) ∧
    (Plan.run ex b ((Command.view "s" "w" none).perform cfg).run c).1 =
      some (.ok (.text "one\n\u3000\ntwo\n")) ∧
    (Plan.run ex b ((Command.view "s" "w" (some 1)).perform cfg).run c).1 =
      some (.ok (.text "two\n")) := by
  intro cfg ex b c
  obtain ⟨-, hwhole, hlast, -, hread⟩ :=
    views_agree cfg "s" "w" ⟨⟨"s", by decide⟩, "w", by decide⟩ 1
  have hcaptured : (Plan.run ex b (captured cfg "s" "w").run c).1 =
      some (.ok "one\r\n\u3000\ntwo\n\n") := by decide +kernel
  obtain ⟨-, -, hwhole⟩ := hwhole ex b c
  obtain ⟨-, -, hlast⟩ := hlast ex b c
  rw [hcaptured] at hwhole hlast
  obtain ⟨_, hwhole, rfl⟩ := hwhole.of_ok
  obtain ⟨report, hlast, hprints, -⟩ := hlast.of_ok
  refine ⟨(hread ex b c _).1 hcaptured, hwhole.trans (by decide +kernel), hlast.trans ?_⟩
  rw [hprints.eq_drop]
  decide +kernel

end PaneRunner.Cli
