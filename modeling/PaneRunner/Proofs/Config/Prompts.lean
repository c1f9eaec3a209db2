import PaneRunner.Proofs.Config.Valid
import PaneRunner.Proofs.Trace.Typing

/-
  Configured prompts. A line is a prompt if, blanks at its end aside, it ends in a suffix
  (`isPrompt_iff`). The line is trimmed before it is compared and the suffix is not, so a suffix
  that itself ends in a blank never shows as written: the lines that end in it are prompts exactly
  if another suffix, or the same one, stands at the end of what is left of them
  (`isPrompt_append_iff`). A wait for a prompt comes to what is said of the last line shown
  (`run_awaitPrompt`).
-/
namespace PaneRunner

open Text

namespace Text

theorem endsWith_iff {s p : String} : endsWith s p = true ↔ p.toList <:+ s.toList := by
  unfold endsWith
  rw [isSome_dropStart?, List.reverse_prefix]

/-- Only a blank end lets trimming reach what stands before it. -/
theorem trimEnd_append {cs : List Char} (h : cs.all isBlankChar = false) (front : List Char) :
    trimEnd (front ++ cs) = front ++ trimEnd cs := by
  have hsome : (cs.reverse.dropWhile isBlankChar).isEmpty = false := by
    rw [List.isEmpty_eq_false_iff]
    intro hnil
    have hall := List.dropWhile_eq_nil_iff.1 hnil
    have hblank : cs.all isBlankChar = true :=
      List.all_eq_true.2 fun c hc => hall c (List.mem_reverse.2 hc)
    rw [hblank] at h
    cases h
  unfold trimEnd
  rw [List.reverse_append, List.dropWhile_append, hsome, if_neg (by decide), List.reverse_append,
    List.reverse_reverse]

end Text

namespace Tmux

theorem isPrompt_iff {line : String} {suffixes : List String} :
    isPrompt line suffixes = true ↔
      ∃ y ∈ suffixes, y ≠ "" ∧ y.toList <:+ trimEnd line.toList := by
  unfold isPrompt
  dsimp only
  rw [Bool.and_eq_true, List.any_eq_true]
  constructor
  · rintro ⟨-, y, hy, hends⟩
    rw [Bool.and_eq_true, endsWith_iff, String.toList_ofList] at hends
    exact ⟨y, hy, by simpa using hends.1, hends.2⟩
  · rintro ⟨y, hy, hne, hends⟩
    have hshown : trimEnd line.toList ≠ [] := by
      intro hnil
      rw [hnil, List.suffix_nil] at hends
      exact hne (String.toList_eq_nil_iff.1 hends)
    refine ⟨?_, y, hy, ?_⟩
    · simpa using hshown
    · rw [Bool.and_eq_true, endsWith_iff, String.toList_ofList]
      exact ⟨by simpa using hne, hends⟩

/-- Of a line that ends in `x`, blanks aside, what counts is `x` without the blanks at its end. -/
theorem isPrompt_append_iff {x v : String} (hx : isBlank x = false) (hv : isBlank v = true)
    (t : String) (suffixes : List String) :
    isPrompt (t ++ x ++ v) suffixes = true ↔
      ∃ y ∈ suffixes, y ≠ "" ∧ y.toList <:+ t.toList ++ trimEnd x.toList := by
  rw [isPrompt_iff, String.toList_append, String.toList_append, trimEnd_append_blank _ _ hv,
    trimEnd_append hx]

/-! ## Waiting for a prompt -/

namespace Window

open Plan

/-- Every look shows this line last. -/
def ShowsOnly (cfg : Settings) (w : Window) (line : String) (t : List (Exchange Exec.Answer)) :
    Prop :=
  ∀ x ∈ t, x.1 = w.looking cfg →
    ∃ o : Exec.Output, x = ⟨w.looking cfg, .ok o⟩ ∧ lastShown o.stdoutText = some line

/-- A wait for a prompt comes to what is said of the line that is shown. -/
theorem run_awaitPrompt {σ : Type} (ex : Executor Exec.Answer σ) {b : Bounds} {cfg : Settings}
    (w : Window) {most : Nat} (hlimit : cfg.promptReady.limit = .attempts most) (hpos : 0 < most)
    (hb : b.deadline = none) (hmost : most ≤ b.checks) {line : String} {c : Timed σ}
    (hshows : ShowsOnly cfg w line (trace ex b (w.awaitPrompt cfg).run c)) :
    (Plan.run ex b (w.awaitPrompt cfg).run c).1 =
      some (if isPrompt line cfg.suffixes then .ok () else .error (.promptNotReady w.address most)) := by
  have hlook : ∀ o : Exec.Output,
      (⟨w.looking cfg, .ok o⟩ : Exchange Exec.Answer) ∈ trace ex b (w.awaitPrompt cfg).run c →
        cfg.showsPrompt o = isPrompt line cfg.suffixes := by
    intro o ho
    obtain ⟨o', ho', hline⟩ := hshows _ ho rfl
    cases ho'
    rw [Bool.eq_iff_iff, showsPrompt_iff, hline]
    simp
  have htraces := traces_run ex b (w.awaitPrompt cfg).run c
  cases hv : (Plan.run ex b (w.awaitPrompt cfg).run c).1 with
  | none => exact absurd hv (awaitPrompt_ne_none hlimit hb hmost c)
  | some result =>
    rw [hv] at htraces
    generalize trace ex b (w.awaitPrompt cfg).run c = t at htraces hshows hlook
    obtain ⟨misses, hmisses, ⟨a, o, _, rfl, hview, hcheck, rfl⟩ | ⟨a, e, rfl, hview, rfl⟩ |
      ⟨rep, t', rfl, hrep, hlength, hlate⟩⟩ := (Traces.of_pollOn htraces).of_some
    · obtain rfl : a = .ok o := hview
      have hshown : cfg.showsPrompt o = true := by simpa [Settings.showsPrompt] using hcheck
      have hprompt := hlook o (List.mem_append_right _ (List.mem_singleton.2 rfl))
      rw [← hprompt, hshown]
      rfl
    · obtain rfl : a = .error e := hview
      obtain ⟨o, ho, -⟩ := hshows _ (List.mem_append_right _ (List.mem_singleton.2 rfl)) rfl
      cases ho
    · obtain ⟨rfl, hresult⟩ := Traces.of_throw hlate
      rw [hlimit] at hrep
      have hmade : misses.length = most := hlength.trans hrep.attempts_eq
      -- at least one look was made, and it did not show a prompt
      obtain ⟨a, ha⟩ := List.exists_mem_of_length_pos (hmade ▸ hpos)
      obtain ⟨o, hview, hcheck⟩ := hmisses a ha
      obtain rfl : a = .ok o := hview
      have hshown : cfg.showsPrompt o = false := by simpa [Settings.showsPrompt] using hcheck
      have hprompt := hlook o (List.mem_append_left _ (List.mem_map_of_mem ha))
      rw [hresult, ← hprompt, hshown, hrep.attempts_eq]
      rfl

end Window

end Tmux

namespace Config

open Tmux

variable {c : Config}

theorem ne_empty_of_not_isBlank {y : String} (h : isBlank y = false) : y ≠ "" := by
  rintro rfl
  cases h

/-- The suffixes in use are the configured ones that are not blank. -/
theorem mem_suffixes_iff {cfg : Settings}
    (h : cfg.suffixes = c.prompt.suffixes.filter fun s => !isBlank s) {y : String} :
    y ∈ cfg.suffixes ↔ y ∈ c.prompt.suffixes ∧ isBlank y = false := by
  rw [h, List.mem_filter, Bool.not_eq_true']

/-- Which lines that end in a configured suffix are prompts. A suffix without a blank at its end
always makes one. One with a blank there makes one exactly if a configured suffix, the same or
another, ends the line when the blanks are gone; and what a wait comes to is what is said of the
line that is shown. -/
theorem suffix_effective_iff (hvalid : c.validate = .ok ()) {x : String}
    (hx : x ∈ c.prompt.suffixes) (hblank : isBlank x = false) :
    ∃ cfg, c.settings = .ok cfg ∧
      (trimEnd x.toList = x.toList →
        ∀ t v : String, isBlank v = true → isPrompt (t ++ x ++ v) cfg.suffixes = true) ∧
      (∀ t v : String, isBlank v = true →
        (isPrompt (t ++ x ++ v) cfg.suffixes = true ↔
          ∃ y ∈ c.prompt.suffixes, isBlank y = false ∧ y.toList <:+ t.toList ++ trimEnd x.toList)) ∧
      ((∀ t v : String, '\n' ∉ t.toList → isBlank v = true →
          isPrompt (t ++ x ++ v) cfg.suffixes = true) ↔
        ∃ y ∈ c.prompt.suffixes, isBlank y = false ∧ y.toList <:+ trimEnd x.toList) ∧
      ∀ {σ : Type} (ex : Executor Exec.Answer σ) (b : Bounds) (w : Window) (line : String)
        (s : Timed σ), b.deadline = none → c.polling.promptAttempts ≤ b.checks →
        Window.ShowsOnly cfg w line (Plan.trace ex b (w.awaitPrompt cfg).run s) →
          (Plan.run ex b (w.awaitPrompt cfg).run s).1 =
            some (if isPrompt line cfg.suffixes then .ok ()
              else .error (.promptNotReady w.address c.polling.promptAttempts)) := by
  have hvalid := validate_eq_ok_iff.1 hvalid
  obtain ⟨cfg, hsettings, -, hsuffixes, hready, -⟩ := hvalid.settings
  have hline : ∀ t v : String, isBlank v = true →
      (isPrompt (t ++ x ++ v) cfg.suffixes = true ↔
        ∃ y ∈ c.prompt.suffixes, isBlank y = false ∧
          y.toList <:+ t.toList ++ trimEnd x.toList) := by
    intro t v hv
    rw [isPrompt_append_iff hblank hv]
    constructor
    · rintro ⟨y, hy, -, hends⟩
      obtain ⟨hmem, hshows⟩ := (mem_suffixes_iff hsuffixes).1 hy
      exact ⟨y, hmem, hshows, hends⟩
    · rintro ⟨y, hmem, hshows, hends⟩
      exact ⟨y, (mem_suffixes_iff hsuffixes).2 ⟨hmem, hshows⟩, ne_empty_of_not_isBlank hshows, hends⟩
  refine ⟨cfg, hsettings, ?_, hline, ?_, ?_⟩
  · intro htrim t v hv
    refine (hline t v hv).2 ⟨x, hx, hblank, ?_⟩
    rw [htrim]
    exact List.suffix_append _ _
  · constructor
    · intro hall
      obtain ⟨y, hy, hshows, hends⟩ := (hline "" "" rfl).1 (hall "" "" List.not_mem_nil rfl)
      exact ⟨y, hy, hshows, hends⟩
    · rintro ⟨y, hy, hshows, hends⟩ t v - hv
      exact (hline t v hv).2 ⟨y, hy, hshows, hends.trans (List.suffix_append _ _)⟩
  · intro σ ex b w line s hb hmost hlooks
    have hpos : 0 < c.polling.promptAttempts :=
      Nat.pos_of_ne_zero (hvalid.counts _ List.mem_cons_self)
    refine Window.run_awaitPrompt ex w ?_ hpos hb hmost hlooks
    rw [hready]

/-- A suffix without a blank, in whatever line. -/
theorem suffix_effective_iff_arrow :
    ∃ cfg, ({ prompt := { suffixes := ["❯", "$ "] } } : Config).settings = .ok cfg ∧
      ∀ t v : String, isBlank v = true → isPrompt (t ++ "❯" ++ v) cfg.suffixes = true := by
  obtain ⟨cfg, hsettings, heffective, -⟩ :=
    suffix_effective_iff (c := { prompt := { suffixes := ["❯", "$ "] } }) (x := "❯") (by rfl)
      List.mem_cons_self (by rfl)
  exact ⟨cfg, hsettings, heffective (by rfl)⟩

/-- A dollar and a blank are a valid suffix, and the lines that end so are no prompts. -/
theorem suffix_dollar_blank_ineffective :
    let c : Config := { prompt := { suffixes := ["$ "] } }
    c.validate = .ok () ∧ "$ " ∈ c.prompt.suffixes ∧ isBlank "$ " = false ∧
      ∃ cfg, c.settings = .ok cfg ∧ isPrompt ("me@host:~" ++ "$ " ++ "") cfg.suffixes = false := by
  refine ⟨by rfl, List.mem_cons_self, by rfl, _, rfl, by decide +kernel⟩

end Config

end PaneRunner
