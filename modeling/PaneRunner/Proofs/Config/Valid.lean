import PaneRunner.Config.Basic

/-
  Valid configurations. `Valid` says section by section what `validate` accepts
  (`validate_eq_ok_iff`), so what a valid configuration comes to is there: a target, settings
  (`Valid.settings`) and, where one is set, a limit longer than nothing
  (`parse?_of_commandTimeout`). Where two configurations share the other sections, only the target
  and the program can make one valid and the other not (`Valid.iff_of_sections`).
-/
namespace PaneRunner

/-- What validation promises of an end marker. -/
structure Tmux.IsMarker (marker : String) : Prop where
  ne_empty : marker ≠ ""
  no_blank : ∀ c ∈ marker.toList, Text.isBlankChar c = false
  no_quote : '\x27' ∉ marker.toList

namespace Config

open Text

/-! ## Checks one after another -/

theorem bind_eq_ok {α β : Type} {x : Except Error α} {f : α → Except Error β} {b : β} :
    x >>= f = .ok b ↔ ∃ a, x = .ok a ∧ f a = .ok b := by
  cases x with
  | error e => simp [bind, Except.bind]
  | ok a => simp [bind, Except.bind]

theorem ensure_eq_ok_iff {b : Bool} {reason : String} : ensure b reason = .ok () ↔ b = true := by
  unfold ensure
  cases b with
  | true => simp
  | false => simp

theorem forM_eq_ok_iff {α : Type} {f : α → Except Error Unit} {as : List α} :
    as.forM f = .ok () ↔ ∀ a ∈ as, f a = .ok () := by
  induction as with
  | nil => exact ⟨fun _ _ ha => absurd ha List.not_mem_nil, fun _ => rfl⟩
  | cons a as ih =>
    change (f a >>= fun _ => as.forM f) = .ok () ↔ _
    rw [bind_eq_ok, List.forall_mem_cons, ← ih]
    exact ⟨fun ⟨_, ha, has⟩ => ⟨ha, has⟩, fun ⟨ha, has⟩ => ⟨(), ha, has⟩⟩

/-! ## Valid configurations -/

variable {c c' : Config}

/-- What validation asks of a configuration. -/
structure Valid (c : Config) : Prop where
  target : ∃ target, c.targetOf = .ok target
  binary : isBlank c.tmux.binary = false
  counts : ∀ count ∈ c.counts, count.2 ≠ 0
  timeout : ∃ limit, c.commandTimeout = .ok limit
  suffix : ∃ s ∈ c.prompt.suffixes, isBlank s = false
  marker : Tmux.IsMarker c.run.marker

theorem isMarker_iff {marker : String} :
    (!marker.isEmpty && !marker.toList.any isBlankChar) = true ∧
      (!marker.toList.contains '\x27') = true ↔ Tmux.IsMarker marker := by
  rw [Bool.and_eq_true, Bool.not_eq_true', Bool.not_eq_true', Bool.not_eq_true', List.any_eq_false]
  constructor
  · rintro ⟨⟨hempty, hblank⟩, hquote⟩
    exact ⟨by simpa using hempty, fun ch hch => by simpa using hblank ch hch, by simpa using hquote⟩
  · intro h
    exact ⟨⟨by simpa using h.ne_empty, fun ch hch => by simp [h.no_blank ch hch]⟩,
      by simpa using h.no_quote⟩

theorem counts_eq_ok_iff :
    (c.counts.forM fun (name, value) => ensure (value != 0) (name ++ " must be at least 1")) =
      .ok () ↔ ∀ count ∈ c.counts, count.2 ≠ 0 := by
  rw [forM_eq_ok_iff]
  refine forall₂_congr fun count _ => ?_
  rw [ensure_eq_ok_iff, bne_iff_ne]

theorem validate_eq_ok_iff : c.validate = .ok () ↔ c.Valid := by
  unfold validate
  constructor
  · intro h
    obtain ⟨target, htarget, h⟩ := bind_eq_ok.1 h
    obtain ⟨_, hbinary, h⟩ := bind_eq_ok.1 h
    obtain ⟨_, hcounts, h⟩ := bind_eq_ok.1 h
    obtain ⟨limit, hlimit, h⟩ := bind_eq_ok.1 h
    obtain ⟨_, hsuffix, h⟩ := bind_eq_ok.1 h
    obtain ⟨_, hshape, hquote⟩ := bind_eq_ok.1 h
    exact {
      target := ⟨target, htarget⟩
      binary := by simpa using ensure_eq_ok_iff.1 hbinary
      counts := counts_eq_ok_iff.1 hcounts
      timeout := ⟨limit, hlimit⟩
      suffix := by simpa using ensure_eq_ok_iff.1 hsuffix
      marker := isMarker_iff.1 ⟨ensure_eq_ok_iff.1 hshape, ensure_eq_ok_iff.1 hquote⟩ }
  · intro h
    obtain ⟨target, htarget⟩ := h.target
    obtain ⟨limit, hlimit⟩ := h.timeout
    obtain ⟨hshape, hquote⟩ := isMarker_iff.2 h.marker
    refine bind_eq_ok.2 ⟨target, htarget, bind_eq_ok.2 ⟨(), ?_, bind_eq_ok.2 ⟨(), ?_,
      bind_eq_ok.2 ⟨limit, hlimit, bind_eq_ok.2 ⟨(), ?_, bind_eq_ok.2 ⟨(), ?_, ?_⟩⟩⟩⟩⟩⟩
    · exact ensure_eq_ok_iff.2 (by simpa using h.binary)
    · exact counts_eq_ok_iff.2 h.counts
    · exact ensure_eq_ok_iff.2 (by simpa using h.suffix)
    · exact ensure_eq_ok_iff.2 hshape
    · exact ensure_eq_ok_iff.2 hquote

theorem isMarker_of_validate (h : c.validate = .ok ()) : Tmux.IsMarker c.run.marker :=
  (validate_eq_ok_iff.1 h).marker

/-- Where the other sections are those of a valid configuration, only the target and the program
can be wrong. -/
theorem Valid.iff_of_sections (h : c'.Valid) (hpolling : c.polling = c'.polling)
    (hprompt : c.prompt = c'.prompt) (hrun : c.run = c'.run) :
    c.Valid ↔ (∃ target, c.targetOf = .ok target) ∧ isBlank c.tmux.binary = false := by
  refine ⟨fun hc => ⟨hc.target, hc.binary⟩, fun ⟨htarget, hbinary⟩ => ?_⟩
  have hcounts : c.counts = c'.counts := by
    unfold Config.counts
    rw [hpolling]
  have htimeout : c.commandTimeout = c'.commandTimeout := by
    unfold commandTimeout
    rw [hpolling]
  exact {
    target := htarget
    binary := hbinary
    counts := by
      rw [hcounts]
      exact h.counts
    timeout := by
      rw [htimeout]
      exact h.timeout
    suffix := by
      rw [hprompt]
      exact h.suffix
    marker := by
      rw [hrun]
      exact h.marker }

/-! ## What a valid configuration comes to -/

/-- What the waits of a valid configuration are made of. -/
theorem Valid.settings (h : c.Valid) :
    ∃ cfg, c.settings = .ok cfg ∧ c.commandTimeout = .ok cfg.commandTimeout ∧
      cfg.suffixes = c.prompt.suffixes.filter (fun s => !isBlank s) ∧
      cfg.promptReady = ⟨.ofMillis c.polling.promptInterval, .attempts c.polling.promptAttempts⟩ ∧
      cfg.captureFlush = ⟨.ofMillis c.polling.flushInterval, .attempts c.polling.flushAttempts⟩ ∧
      cfg.completionInterval = .ofMillis c.polling.completionInterval := by
  obtain ⟨limit, hlimit⟩ := h.timeout
  unfold Config.settings
  rw [hlimit]
  exact ⟨_, rfl, rfl, rfl, rfl, rfl, rfl⟩

/-- A limit is the duration that is written, and longer than nothing. -/
theorem parse?_of_commandTimeout {raw : String} {limit : Option Duration}
    (hraw : c.polling.commandTimeout = some raw) (h : c.commandTimeout = .ok limit) :
    ∃ l, Duration.parse? raw = some l ∧ l ≠ .zero ∧ limit = some l := by
  unfold commandTimeout at h
  rw [hraw] at h
  dsimp only at h
  split at h
  · rename_i l hl
    obtain ⟨hparse, hzero⟩ := Option.filter_eq_some_iff.1 hl
    cases h
    exact ⟨l, hparse, of_decide_eq_true hzero, rfl⟩
  · cases h

end Config

end PaneRunner
