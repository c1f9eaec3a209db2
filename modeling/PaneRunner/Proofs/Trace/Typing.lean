import Mathlib.Data.List.TakeWhile
import PaneRunner.Proofs.Trace.Window

/-
  Nothing is typed unless the shell was seen idle and the pipe is open. In every trace of a run, also
  of one that is broken off, the calls that type come after the opening of the pipe, and the last
  look before them shows a prompt (`typed_of_traces`). They are at most two: the bytes of the command
  line in hexadecimal (`typing_eq`), and the enter key. A prompt that never shows is looked for as
  often as the policy says (`run_unready`).
-/
namespace PaneRunner.Tmux

open Plan

/-- The last line of a text that is not blank. -/
def lastShown (raw : String) : Option String :=
  (Text.lines raw).reverse.find? fun l => !Text.isBlank l

theorem isPrompt_empty (suffixes : List String) : isPrompt "" suffixes = false := rfl

theorem isBlank_of_lastShown {raw l : String} (h : lastShown raw = some l) :
    Text.isBlank l = false := by
  simpa using List.find?_some h

/-- The last line shown is the last one that is not blank. -/
theorem getLast?_shownLines (raw : String) : (shownLines raw).getLast? = lastShown raw := by
  rw [shownLines, dropBlankTail, List.getLast?_reverse, ← List.find?_not_eq_head?_dropWhile]
  rfl

theorem fromBottom_shownLines (raw : String) :
    fromBottom (shownLines raw) 0 = (lastShown raw).getD "" := by
  rw [fromBottom, ← List.head?_eq_getElem?, List.head?_reverse, getLast?_shownLines]

/-- The last line shown is the last one that is not blank, if it is a prompt. -/
theorem showsPrompt_iff (cfg : Settings) (o : Exec.Output) :
    cfg.showsPrompt o = true ↔
      ∃ line, lastShown o.stdoutText = some line ∧ isPrompt line cfg.suffixes = true := by
  rw [Settings.showsPrompt, fromBottom_shownLines]
  cases lastShown o.stdoutText with
  | none => simp [isPrompt_empty]
  | some line => simp

namespace Window

/-- An exchange is a call with this subcommand. -/
def asks (sub : String) (x : Exchange Exec.Answer) : Bool := subcommand? x.1 == some sub

section Description

variable (cfg : Settings) (w : Window) (argv : List String)

/-- Nothing is typed. -/
def Quiet (t : List (Exchange Exec.Answer)) : Prop := ∀ x ∈ t, asks "send-keys" x = false

/-- What is typed in a trace, and what was seen before. -/
structure Typed (t : List (Exchange Exec.Answer)) : Prop where
  piped : Precedes (fun x => ∃ (path : String) (o : Exec.Output), x = ⟨w.opening cfg path, .ok o⟩)
    (fun x => asks "send-keys" x = true) t
  idle : (∃ x ∈ t, asks "send-keys" x = true) →
    ∃ (o : Exec.Output) (line : String),
      (t.takeWhile fun x => !asks "send-keys" x).reverse.find? (asks "capture-pane") =
          some ⟨w.looking cfg, .ok o⟩ ∧
        lastShown o.stdoutText = some line ∧ isPrompt line cfg.suffixes = true
  calls : t.filter (asks "send-keys") = [] ∨
    (∃ a, t.filter (asks "send-keys") = [⟨w.typing cfg argv, a⟩]) ∨
      ∃ (o : Exec.Output) (a : Except Exec.Error Exec.Output),
        t.filter (asks "send-keys") = [⟨w.typing cfg argv, .ok o⟩, ⟨w.entering cfg, a⟩]

end Description

variable {cfg : Settings} {w : Window} {argv : List String} {acceptAny : Bool}
  {t : List (Exchange Exec.Answer)}

/-- The line is no key, and travels as its bytes. -/
theorem typing_eq (cfg : Settings) (w : Window) (argv : List String) :
    w.typing cfg argv = call cfg
      (["send-keys", "-t", w.target, "-H"] ++ hexBytes (commandLine argv cfg.marker)) := by
  rw [typing, keyArgs, isKey_commandLine]
  rfl

theorem hexBytes_digits (text : String) :
    (∀ d ∈ hexBytes text, d.toList.length = 2 ∧ ∀ c ∈ d.toList, (Text.Hex.digit? c).isSome) ∧
      (hexBytes text).map Text.Hex.byte? = (Text.Utf8.encode text).map some := by
  constructor
  · intro d hd
    obtain ⟨b, -, rfl⟩ := List.mem_map.1 hd
    exact Text.Hex.toList_byte b
  · rw [hexBytes, List.map_map]
    exact List.map_congr_left fun b _ => Text.Hex.byte?_byte b

theorem Quiet.not_asks (h : Quiet t) : ∀ x ∈ t, ¬ asks "send-keys" x = true := by
  intro x hx htypes
  rw [h x hx] at htypes
  cases htypes

theorem Quiet.filter_eq_nil (h : Quiet t) : t.filter (asks "send-keys") = [] :=
  List.filter_eq_nil_iff.2 h.not_asks

theorem Quiet.cons {x : Exchange Exec.Answer} (hx : asks "send-keys" x = false) (h : Quiet t) :
    Quiet (x :: t) := List.forall_mem_cons.2 ⟨hx, h⟩

theorem Quiet.append {t' : List (Exchange Exec.Answer)} (h : Quiet t) (h' : Quiet t') :
    Quiet (t ++ t') := List.forall_mem_append.2 ⟨h, h'⟩

theorem Quiet.nil : Quiet [] := nofun

/-- What stands before the first call that types. -/
theorem Quiet.takeWhile_append {x : Exchange Exec.Answer} {t' : List (Exchange Exec.Answer)}
    (h : Quiet t) (hx : asks "send-keys" x = true) :
    (t ++ x :: t').takeWhile (fun x => !asks "send-keys" x) = t := by
  have hpos : ∀ x ∈ t, (!asks "send-keys" x) = true := by
    intro x hx
    rw [h x hx]
    rfl
  rw [List.takeWhile_append_of_pos hpos, List.takeWhile_cons_of_neg (by simp [hx]),
    List.append_nil]

theorem Typed.of_quiet (h : Quiet t) : Typed cfg w argv t where
  piped := .of_none h.not_asks
  idle := fun ⟨x, hx, htypes⟩ => absurd htypes (h.not_asks x hx)
  calls := Or.inl h.filter_eq_nil

theorem asks_of_among {subs : List String} {sub : String} {x : Exchange Exec.Answer}
    (h : Among subs x.1) (hsub : sub ∉ subs) : asks sub x = false :=
  beq_eq_false_iff_ne.2 (h.subcommand_ne hsub)

/-- What is typed while the command line is typed and waited for. -/
theorem filter_of_typeAndAwait {v : Option (Except Error Unit)}
    (h : Traces (w.typeAndAwait cfg argv).run t v) :
    (∃ a rest, t = ⟨w.typing cfg argv, a⟩ :: rest) ∧
      ((∃ a, t.filter (asks "send-keys") = [⟨w.typing cfg argv, a⟩]) ∨
        ∃ (o : Exec.Output) (a : Except Exec.Error Exec.Output),
          t.filter (asks "send-keys") = [⟨w.typing cfg argv, .ok o⟩, ⟨w.entering cfg, a⟩]) := by
  rcases of_typeAndAwait h with ⟨a, rfl, -⟩ | ⟨o, a, rfl, -⟩ | ⟨o, o', looks, rfl, hlooks⟩
  · exact ⟨⟨a, [], rfl⟩, Or.inl ⟨a, rfl⟩⟩
  · exact ⟨⟨.ok o, _, rfl⟩, Or.inr ⟨o, a, rfl⟩⟩
  · have hquiet : Quiet looks := by
      intro x hx
      rw [asks, hlooks.within within_awaitMarker x hx]
      rfl
    refine ⟨⟨.ok o, _, rfl⟩, Or.inr ⟨o, .ok o', ?_⟩⟩
    rw [List.filter_cons_of_pos rfl, List.filter_cons_of_pos rfl, hquiet.filter_eq_nil]

/-- While running into a file nothing is typed but the command line, behind the open pipe. -/
theorem of_runInto_typed {path : String} {v : Option (Except Error Exec.Output)}
    (h : Traces (w.runInto cfg path argv acceptAny).run t v) :
    (∃ a, t = [⟨w.opening cfg path, a⟩]) ∨
      ∃ (o : Exec.Output) (typed tail : List (Exchange Exec.Answer)) (v' : Option (Except Error Unit)),
        t = ⟨w.opening cfg path, .ok o⟩ :: (typed ++ tail) ∧
          Traces (w.typeAndAwait cfg argv).run typed v' ∧ Quiet tail := by
  rcases of_runInto h with ⟨a, rfl, -⟩ | ⟨o, typed, -, rfl, htyped⟩ |
    ⟨o, typed, waited, stopped, rest, rfl, htyped, hrest⟩
  · exact Or.inl ⟨a, rfl⟩
  · exact Or.inr ⟨o, typed, [], none, by rw [List.append_nil], htyped, .nil⟩
  · refine Or.inr ⟨o, typed, _, some waited, rfl, htyped, .cons rfl ?_⟩
    rcases hrest with ⟨-, rfl⟩ | hrest
    · exact .nil
    · intro x hx
      rw [asks, hrest.within (within_conclude _ _) x hx]
      rfl

theorem of_runPiped_typed {v : Option (Except Error Exec.Output)}
    (h : Traces (w.runPiped cfg argv acceptAny).run t v) :
    Quiet t ∨
      ∃ (path : String) (o : Exec.Output) (typed tail : List (Exchange Exec.Answer))
        (v' : Option (Except Error Unit)),
        t = ⟨.newFile, .ok path⟩ :: ⟨w.opening cfg path, .ok o⟩ :: (typed ++ tail) ∧
          Traces (w.typeAndAwait cfg argv).run typed v' ∧ Quiet tail := by
  rcases of_runPiped h with ⟨a, rfl, -⟩ | ⟨path, into, -, rfl, hinto⟩ |
    ⟨path, into, result, removed, rfl, hinto, -⟩
  · exact Or.inl (.cons rfl .nil)
  · rcases of_runInto_typed hinto with ⟨a, rfl⟩ | ⟨o, typed, tail, v', rfl, htyped, htail⟩
    · exact Or.inl (.cons rfl (.cons rfl .nil))
    · exact Or.inr ⟨path, o, typed, tail, v', rfl, htyped, htail⟩
  · rcases of_runInto_typed hinto with ⟨a, rfl⟩ | ⟨o, typed, tail, v', rfl, htyped, htail⟩
    · exact Or.inl (.cons rfl (.cons rfl (.cons rfl .nil)))
    · refine Or.inr ⟨path, o, typed, tail ++ [⟨.removeFile path, removed⟩], v', ?_, htyped, ?_⟩
      · rw [List.cons_append, List.append_assoc]
      · exact htail.append (.cons rfl .nil)

/-- In a window that was seen idle, the command line is typed behind the open pipe. -/
theorem Typed.of_seen {before typed tail : List (Exchange Exec.Answer)} {shown o : Exec.Output}
    {path : String} {v : Option (Except Error Unit)} (hbefore : Quiet before)
    (hshown : cfg.showsPrompt shown = true) (htyped : Traces (w.typeAndAwait cfg argv).run typed v)
    (htail : Quiet tail) :
    Typed cfg w argv ((before ++ [⟨w.looking cfg, .ok shown⟩, ⟨.newFile, .ok path⟩,
      ⟨w.opening cfg path, .ok o⟩]) ++ (typed ++ tail)) := by
  obtain ⟨⟨a, rest, rfl⟩, hcalls⟩ := filter_of_typeAndAwait htyped
  have hseen : Quiet (before ++ [⟨w.looking cfg, .ok shown⟩, ⟨.newFile, .ok path⟩,
      ⟨w.opening cfg path, .ok o⟩]) := hbefore.append (.cons rfl (.cons rfl (.cons rfl .nil)))
  constructor
  case piped =>
    rw [List.append_assoc]
    refine Precedes.append_left hbefore.not_asks (Precedes.cons ?_ (Precedes.cons ?_ ?_))
    · exact Bool.false_ne_true
    · exact Bool.false_ne_true
    · refine Precedes.of_head ?_ ?_ _
      · exact ⟨path, o, rfl⟩
      · exact Bool.false_ne_true
  case idle =>
    intro _
    obtain ⟨line, hline, hprompt⟩ := (showsPrompt_iff cfg shown).1 hshown
    refine ⟨shown, line, ?_, hline, hprompt⟩
    rw [List.cons_append, hseen.takeWhile_append rfl, List.reverse_append]
    rfl
  case calls =>
    right
    rw [List.filter_append, hseen.filter_eq_nil, List.nil_append, List.filter_append,
      htail.filter_eq_nil, List.append_nil]
    exact hcalls

theorem typed_of_traces {v : Option (Except Error Exec.Output)}
    (h : Traces (w.run cfg argv acceptAny).run t v) : Typed cfg w argv t := by
  have hquiet : ∀ {t : List (Exchange Exec.Answer)}, (∀ x ∈ t, Prepares x.1) → Quiet t :=
    fun ht x hx => asks_of_among (ht x hx) (by decide)
  cases argv with
  | nil =>
    rw [run_nil] at h
    obtain ⟨rfl, -⟩ := Traces.of_throw h
    exact .of_quiet .nil
  | cons a argv =>
    rw [run_eq cfg w (List.cons_ne_nil a argv)] at h
    rcases Traces.of_seq h with ⟨-, hready⟩ | ⟨e, -, hready⟩ | ⟨t₁, t₂, _, rfl, hready, hpiped⟩
    · exact .of_quiet (hquiet (hready.within within_getReady))
    · exact .of_quiet (hquiet (hready.within within_getReady))
    have hprepared := hready.within within_getReady
    obtain ⟨before, shown, rfl, hshown⟩ := of_getReady hready
    rcases of_runPiped_typed hpiped with hrest | ⟨path, o, typed, tail, v', rfl, htyped, htail⟩
    · exact .of_quiet ((hquiet hprepared).append hrest)
    · have hbefore : Quiet before :=
        hquiet fun x hx => hprepared x (List.mem_append_left _ hx)
      have htrace : (before ++ [⟨w.looking cfg, .ok shown⟩]) ++ ⟨.newFile, .ok path⟩ ::
          ⟨w.opening cfg path, .ok o⟩ :: (typed ++ tail) =
          (before ++ [⟨w.looking cfg, .ok shown⟩, ⟨.newFile, .ok path⟩,
            ⟨w.opening cfg path, .ok o⟩]) ++ (typed ++ tail) := by simp
      rw [htrace]
      exact .of_seen hbefore hshown htyped htail

/-! ## A prompt that never shows -/

section NeverReady

variable {σ : Type} {ex : Executor Exec.Answer σ} {b : Bounds}

/-- Looks that show no prompt. -/
def Unready (cfg : Settings) (w : Window) (t : List (Exchange Exec.Answer)) : Prop :=
  ∀ x ∈ t, x.1 = w.looking cfg → ∃ o : Exec.Output, x = ⟨w.looking cfg, .ok o⟩ ∧
    ∀ line, lastShown o.stdoutText = some line → isPrompt line cfg.suffixes = false

theorem of_awaitPrompt_unready {most : Nat} (hlimit : cfg.promptReady.limit = .attempts most)
    {v : Option (Except Error Unit)} (h : Traces (w.awaitPrompt cfg).run t v)
    (hunready : Unready cfg w t) :
    v = none ∨ (v = some (.error (.promptNotReady w.address most)) ∧
      ∃ looks : List (Exec.Answer (w.looking cfg)),
        looks.length = most ∧ t = looks.map (Sigma.mk (w.looking cfg))) := by
  cases v with
  | none => exact Or.inl rfl
  | some result =>
    right
    obtain ⟨misses, -, ⟨a, o, _, rfl, hview, hcheck, rfl⟩ | ⟨a, e, rfl, hview, rfl⟩ |
      ⟨rep, t', rfl, hrep, hlength, hlate⟩⟩ := (Traces.of_pollOn h).of_some
    · obtain rfl : a = .ok o := hview
      obtain ⟨o', ho', hnot⟩ := hunready _ (List.mem_append_right _ (List.mem_singleton.2 rfl)) rfl
      cases ho'
      have hshown : cfg.showsPrompt o = true := by simpa [Settings.showsPrompt] using hcheck
      obtain ⟨line, hline, hprompt⟩ := (showsPrompt_iff cfg o).1 hshown
      rw [hnot line hline] at hprompt
      cases hprompt
    · obtain rfl : a = .error e := hview
      obtain ⟨o', ho', -⟩ := hunready _ (List.mem_append_right _ (List.mem_singleton.2 rfl)) rfl
      cases ho'
    · obtain ⟨rfl, hv⟩ := Traces.of_throw hlate
      cases hv
      rw [hlimit] at hrep
      refine ⟨by rw [hrep.attempts_eq], misses, hlength.trans hrep.attempts_eq, List.append_nil _⟩

/-- How often the screen is looked at while the window is made, and then `looks` times. -/
theorem countP_looks {made : List (Exchange Exec.Answer)} (hmade : ∀ x ∈ made, Makes x.1)
    (looks : List (Exec.Answer (w.looking cfg))) :
    (made ++ looks.map (Sigma.mk (w.looking cfg))).countP (asks "capture-pane") = looks.length := by
  have hnone : made.countP (asks "capture-pane") = 0 := by
    refine List.countP_eq_zero.2 fun x hx hlook => ?_
    rw [asks_of_among (hmade x hx) (by decide)] at hlook
    cases hlook
  have hall : (looks.map (Sigma.mk (w.looking cfg))).countP (asks "capture-pane") =
      (looks.map (Sigma.mk (w.looking cfg))).length := by
    refine List.countP_eq_length.2 fun x hx => ?_
    obtain ⟨a, -, rfl⟩ := List.mem_map.1 hx
    rfl
  rw [List.countP_append, hnone, hall, List.length_map, Nat.zero_add]

theorem awaitPrompt_ne_none {most : Nat} (hlimit : cfg.promptReady.limit = .attempts most)
    (hb : b.deadline = none) (hmost : most ≤ b.checks) (c : Timed σ) :
    (Plan.run ex b (w.awaitPrompt cfg).run c).1 ≠ none := by
  refine pollOn_ne_none ex b hb hlimit hmost (fun rep c => ?_) c
  exact Option.some_ne_none _

/-- Getting ready while no prompt shows. -/
theorem getReady_unready {most : Nat} (hlimit : cfg.promptReady.limit = .attempts most)
    {c : Timed σ} (hcreated : (Plan.run ex b (w.create cfg).run c).1 = some (.ok ()))
    (hunready : Unready cfg w (trace ex b (w.getReady cfg).run c)) :
    ((Plan.run ex b (w.getReady cfg).run c).1 = none ∧
        (b.deadline = none → b.checks < most)) ∨
      ((Plan.run ex b (w.getReady cfg).run c).1 = some (.error (.promptNotReady w.address most)) ∧
        (trace ex b (w.getReady cfg).run c).countP (asks "capture-pane") = most) := by
  rcases hcreate : Plan.run ex b (w.create cfg).run c with ⟨v, c'⟩
  rw [hcreate] at hcreated
  obtain rfl : v = some (.ok ()) := hcreated
  have hready : Plan.run ex b (w.getReady cfg).run c =
      Plan.run ex b (w.awaitPrompt cfg).run c' := by
    rw [getReady, run_seq, hcreate]
  have htrace : trace ex b (w.getReady cfg).run c =
      trace ex b (w.create cfg).run c ++ trace ex b (w.awaitPrompt cfg).run c' := by
    rw [getReady, trace_seq, hcreate]
  have hawait := traces_run ex b (w.awaitPrompt cfg).run c'
  rw [htrace] at hunready
  rcases of_awaitPrompt_unready hlimit hawait
    (fun x hx => hunready x (List.mem_append_right _ hx)) with hv | ⟨hv, looks, hlength, hlooks⟩
  · refine Or.inl ⟨by rw [hready, hv], fun hb => ?_⟩
    by_contra hmost
    exact awaitPrompt_ne_none hlimit hb (by omega) c' hv
  · have hmade := (traces_run ex b (w.create cfg).run c).within (within_create cfg w)
    refine Or.inr ⟨by rw [hready, hv], ?_⟩
    rw [htrace, hlooks, countP_looks hmade, hlength]

/-- A run in which no prompt shows. -/
theorem run_unready {most : Nat} (hlimit : cfg.promptReady.limit = .attempts most)
    (hargv : argv ≠ []) {c : Timed σ}
    (hcreated : (Plan.run ex b (w.create cfg).run c).1 = some (.ok ()))
    (hunready : Unready cfg w (trace ex b (w.run cfg argv acceptAny).run c)) :
    (b.deadline = none → most ≤ b.checks →
        (Plan.run ex b (w.run cfg argv acceptAny).run c).1 ≠ none) ∧
      ∀ result, (Plan.run ex b (w.run cfg argv acceptAny).run c).1 = some result →
        result = .error (.promptNotReady w.address most) ∧
          (trace ex b (w.run cfg argv acceptAny).run c).countP (asks "capture-pane") = most := by
  rw [run_eq cfg w hargv] at hunready ⊢
  have hbegin := trace_isPrefix_seq ex b (w.getReady cfg) (fun _ => w.runPiped cfg argv acceptAny) c
  rcases getReady_unready hlimit hcreated (fun x hx => hunready x (hbegin.subset hx)) with
    ⟨hnone, hchecks⟩ | ⟨herror, hcount⟩
  · refine ⟨fun hb hmost => absurd hmost (Nat.not_le.2 (hchecks hb)), fun result hresult => ?_⟩
    rw [run_seq_none _ hnone] at hresult
    cases hresult
  · refine ⟨fun _ _ => ?_, fun result hresult => ?_⟩
    · rw [run_seq_error _ herror]
      exact Option.some_ne_none _
    · rw [run_seq_error _ herror] at hresult
      cases hresult
      rw [trace_seq_of_not_ok _ fun _ => by rw [herror]; exact nofun]
      exact ⟨rfl, hcount⟩

end NeverReady

/-- What a run types, and what it has seen before it types. -/
theorem run_types_when_idle {σ : Type} (ex : Executor Exec.Answer σ) (b : Bounds) (cfg : Settings)
    (w : Window) {argv : List String} (hargv : argv ≠ []) (acceptAny : Bool) (c : Timed σ) :
    Typed cfg w argv (trace ex b (w.run cfg argv acceptAny).run c) ∧
    (isKey (commandLine argv cfg.marker) = false ∧
      ∃ digits, w.typing cfg argv = call cfg (["send-keys", "-t", w.target, "-H"] ++ digits) ∧
        (∀ d ∈ digits, d.toList.length = 2 ∧ ∀ c ∈ d.toList, (Text.Hex.digit? c).isSome) ∧
        digits.map Text.Hex.byte? = (Text.Utf8.encode (commandLine argv cfg.marker)).map some) ∧
    w.entering cfg = call cfg ["send-keys", "-t", w.target, "enter"] ∧
    ∀ most, cfg.promptReady.limit = .attempts most →
      (Plan.run ex b (w.create cfg).run c).1 = some (.ok ()) →
      Unready cfg w (trace ex b (w.run cfg argv acceptAny).run c) →
        (b.deadline = none → most ≤ b.checks →
            (Plan.run ex b (w.run cfg argv acceptAny).run c).1 ≠ none) ∧
          ∀ result, (Plan.run ex b (w.run cfg argv acceptAny).run c).1 = some result →
            result = .error (.promptNotReady w.address most) ∧
              (trace ex b (w.run cfg argv acceptAny).run c).countP (asks "capture-pane") =
                most := by
  refine ⟨typed_of_traces (traces_run ex b _ c), ⟨isKey_commandLine argv cfg.marker, _,
    typing_eq cfg w argv, hexBytes_digits _⟩, rfl, fun most hlimit hcreated hunready => ?_⟩
  exact run_unready hlimit hargv hcreated hunready

/-- A run on a screen that shows an end marker and a prompt all the time, and one on a screen that
shows nothing. -/
theorem run_types_when_idle_still :
    let w : Window := ⟨⟨"s", by decide⟩, "w", by decide⟩
    let cfg : Settings := { marker := "M", promptReady := ⟨.zero, .attempts 2⟩ }
    let idle := still "M 0\n$ \n" "e\r\nx\r\n\r\nM 0\r\n$ " (.ok ())
    let blank := still "" "" (.ok ())
    let b : Bounds := { checks := 2 }
    let c : Timed Unit := ⟨(), .zero⟩
    Typed cfg w ["e"] (trace idle b (w.run cfg ["e"] false).run c) ∧
      (∃ x ∈ trace idle b (w.run cfg ["e"] false).run c, asks "send-keys" x = true) ∧
      (trace blank b (w.run cfg ["e"] false).run c).countP (asks "capture-pane") = 2 := by
  intro w cfg idle blank b c
  have hidle := run_types_when_idle idle b cfg w (List.cons_ne_nil "e" []) false c
  have hblank := run_types_when_idle blank b cfg w (List.cons_ne_nil "e" []) false c
  have hunready : Unready cfg w (trace blank b (w.run cfg ["e"] false).run c) := by
    have hlooks : ∀ x ∈ trace blank b (w.run cfg ["e"] false).run c,
        x.1 = w.looking cfg → x = ⟨w.looking cfg, .ok {}⟩ := by decide +kernel
    have hnone : lastShown ({} : Exec.Output).stdoutText = none := by decide +kernel
    refine fun x hx hlook => ⟨{}, hlooks x hx hlook, fun line hline => ?_⟩
    rw [hnone] at hline
    cases hline
  obtain ⟨-, hend⟩ := hblank.2.2.2 2 rfl (by decide +kernel) hunready
  exact ⟨hidle.1, by decide +kernel,
    (hend (.error (.promptNotReady "s:w" 2)) (by decide +kernel)).2⟩

end Window

end PaneRunner.Tmux
