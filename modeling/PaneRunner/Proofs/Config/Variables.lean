import Mathlib.Data.List.DropRight
import Mathlib.Data.List.Forall2
import PaneRunner.Config.Load
import PaneRunner.Proofs.Text.Pieces

/-
  What the variables of the environment say. A text is trimmed to what blank characters surround
  (`Trims`), a list is what stands between commas (`CommaSeparated`), and a kind is spelled in
  letters of either case (`Kind.Spelled`). Each is said without the code, and is what the code reads
  (`trims_iff`, `commaSeparated_iff`, `kindOf_eq_ok_iff`). A setting is what its own variable says,
  or what the file says where that is not set or blank (`Setting.Means`). There is one such value
  (`Setting.Means.unique`), and it is the value that the setting gets (`of_override`).
-/
namespace PaneRunner

namespace Text

variable {s t : String}

/-! ## Trimmed texts -/

/-- The second text is the first without the blank characters around it. -/
structure Trims (s t : String) : Prop where
  around : ∃ before after, s.toList = before ++ t.toList ++ after ∧
    (∀ c ∈ before, isBlankChar c = true) ∧ ∀ c ∈ after, isBlankChar c = true
  first : ∀ c, t.toList.head? = some c → isBlankChar c = false
  last : ∀ c, t.toList.getLast? = some c → isBlankChar c = false

theorem trims_trim (s : String) : Trims s (trim s) := by
  have hstart : s.toList.takeWhile isBlankChar ++ trimStart s.toList = s.toList :=
    List.takeWhile_append_dropWhile
  have hend : trimEnd (trimStart s.toList) ++ (trimStart s.toList).rtakeWhile isBlankChar =
      trimStart s.toList := List.rdropWhile_append_rtakeWhile
  have htrim : (trim s).toList = trimEnd (trimStart s.toList) := String.toList_ofList
  refine ⟨⟨s.toList.takeWhile isBlankChar, (trimStart s.toList).rtakeWhile isBlankChar, ?_,
    fun c => List.mem_takeWhile_imp, fun c => List.mem_rtakeWhile_imp⟩, fun c hc => ?_,
    fun c hc => ?_⟩
  · rw [htrim, List.append_assoc, hend, hstart]
  · have hhead : (trimStart s.toList).head? = some c := by
      rw [← hend, List.head?_append, ← htrim, hc, Option.some_or]
    have hnot := List.head?_dropWhile_not isBlankChar s.toList
    rwa [← trimStart, hhead] at hnot
  · rw [htrim] at hc
    obtain ⟨hne, rfl⟩ := List.mem_getLast?_eq_getLast hc
    exact Bool.eq_false_iff.2 (List.rdropWhile_last_not isBlankChar _ hne)

theorem Trims.eq_trim (h : Trims s t) : t = trim s := by
  obtain ⟨⟨before, after, hs, hbefore, hafter⟩, hfirst, hlast⟩ := h
  rw [← String.toList_inj, trim, String.toList_ofList, hs, List.append_assoc, trimStart,
    List.dropWhile_append_of_pos hbefore]
  cases ht : t.toList with
  | nil =>
    rw [List.nil_append, List.dropWhile_eq_nil_iff.2 hafter]
    rfl
  | cons c cs =>
    rw [ht] at hfirst hlast
    rw [List.cons_append, List.dropWhile_cons_of_neg (by simp [hfirst c rfl]), ← List.cons_append,
      trimEnd_append_blank _ _ (List.all_eq_true.2 hafter)]
    refine (List.rdropWhile_eq_self_iff.2 fun hne => ?_).symm
    simp [hlast _ (List.getLast?_eq_some_getLast hne)]

theorem trims_iff : Trims s t ↔ t = trim s := ⟨Trims.eq_trim, fun h => h ▸ trims_trim s⟩

/-- Nothing is left of a text after trimming exactly if it is blank. -/
theorem isEmpty_trim (s : String) : (trim s).isEmpty = isBlank s := by
  have hend : trimEnd (trimStart s.toList) = [] ↔ trimStart s.toList = [] := by
    have hall : trimEnd (trimStart s.toList) = [] ↔ ∀ c ∈ trimStart s.toList, isBlankChar c :=
      List.rdropWhile_eq_nil_iff
    rw [hall, ← List.dropWhile_eq_nil_iff, trimStart, List.dropWhile_idempotent]
  rw [Bool.eq_iff_iff, String.isEmpty_iff, ← String.toList_inj, trim, String.toList_ofList]
  rw [show "".toList = [] from rfl, hend, trimStart, List.dropWhile_eq_nil_iff, isBlank,
    List.all_eq_true]

end Text

namespace Config

variable {env env' : Environment} {file config : Config} {text : String}

theorem map_eq_ok {α β : Type} {x : Except Error α} {f : α → β} {b : β} :
    x.map f = .ok b ↔ ∃ a, x = .ok a ∧ f a = b := by
  cases x <;> simp [Except.map]

/-! ## Lists and kinds -/

/-- A list is written in a text: what stands between the commas of the text, trimmed, unless nothing
is left of it. -/
def CommaSeparated (text : String) (items : List String) : Prop :=
  ∃ parts trimmed : List String, parts ≠ [] ∧ (∀ p ∈ parts, ',' ∉ p.toList) ∧
    text = ",".intercalate parts ∧ List.Forall₂ Text.Trims parts trimmed ∧
    items = trimmed.filter fun t => !t.isEmpty

theorem forall₂_trims_iff {ps ts : List String} :
    List.Forall₂ Text.Trims ps ts ↔ ts = ps.map Text.trim := by
  induction ps generalizing ts with
  | nil => exact List.forall₂_nil_left_iff
  | cons p ps ih => simp [List.forall₂_cons_left_iff, ih, Text.trims_iff]

theorem commaSeparated_iff {items : List String} :
    CommaSeparated text items ↔ items = splitCommas text := by
  unfold splitCommas
  rw [Text.pieces_eq_splitOn]
  constructor
  · rintro ⟨parts, trimmed, hne, hcomma, htext, htrimmed, rfl⟩
    have hparts : text.toList.splitOn ',' = parts.map String.toList := by
      rw [htext, String.toList_intercalate]
      exact List.splitOn_intercalate ',' (by simpa using hcomma) (by simpa using hne)
    rw [forall₂_trims_iff.1 htrimmed, hparts, List.map_map]
    simp [Function.comp_def]
  · rintro rfl
    refine ⟨(text.toList.splitOn ',').map .ofList, _, ?_, ?_, ?_, forall₂_trims_iff.2 rfl, ?_⟩
    · simp
    · rw [← Text.pieces_eq_splitOn, List.forall_mem_map]
      exact fun p hp => String.toList_ofList ▸ Text.not_mem_of_mem_pieces hp
    · rw [← String.toList_inj, String.toList_intercalate, List.map_map]
      simp [Function.comp_def, List.intercalate_splitOn]
    · rw [List.map_map]
      rfl

example : CommaSeparated " $, ,#" ["$", "#"] := commaSeparated_iff.2 (by decide +kernel)

/-- A kind is spelled as it is named, in letters of either case. -/
def Kind.Spelled (text : String) (k : Kind) : Prop := text.toList.map Char.toLower = k.name.toList

theorem Kind.ofName?_eq_some_iff {name : String} {k : Kind} :
    Kind.ofName? name = some k ↔ name = k.name := by
  constructor
  · intro h
    unfold Kind.ofName? at h
    split at h <;> cases h <;> rfl
  · rintro rfl
    exact Kind.ofName?_name k

theorem kindOf_eq_ok_iff {k : Kind} : kindOf text = .ok k ↔ Kind.Spelled text k := by
  have hlower : Text.lower text = k.name ↔ Kind.Spelled text k := by
    rw [← String.toList_inj, Text.lower, String.toList_ofList, Kind.Spelled]
  rw [← hlower, ← Kind.ofName?_eq_some_iff, kindOf]
  cases Kind.ofName? (Text.lower text) <;> simp

theorem Kind.Spelled.unique {k k' : Kind} (h : Kind.Spelled text k) (h' : Kind.Spelled text k') :
    k' = k := by
  have hsame := (kindOf_eq_ok_iff.2 h').symm.trans (kindOf_eq_ok_iff.2 h)
  exact Except.ok.inj hsame

/-! ## Settings -/

/-- A setting that a variable of the environment may replace. -/
structure Setting where
  Value : Type
  /-- the variable -/
  name : String
  get : Config → Value
  /-- what a trimmed text of the variable stands for -/
  Reads : String → Value → Prop
  unique {text : String} {v v' : Value} : Reads text v → Reads text v' → v' = v

/-- A setting that is the text of its variable. -/
def Setting.verbatim {α : Type} (of : String → α) (name : String) (get : Config → α) : Setting :=
  ⟨α, name, get, fun text v => v = of text, fun h h' => h'.trans h.symm⟩

/-- The settings that variables may replace. -/
def overridable : List Setting := [
  ⟨Kind, "TMUXDRIVE_TARGET", (·.target.kind), Kind.Spelled, Kind.Spelled.unique⟩,
  .verbatim some "TMUXDRIVE_SSH_HOST" (·.target.host),
  .verbatim some "TMUXDRIVE_CONTAINER" (·.target.container),
  .verbatim id "TMUXDRIVE_TMUX_BIN" (·.tmux.binary),
  .verbatim some "TMUXDRIVE_COMMAND_TIMEOUT" (·.polling.commandTimeout),
  ⟨List String, "TMUXDRIVE_PROMPT_SUFFIXES", (·.prompt.suffixes), CommaSeparated,
    fun h h' => (commaSeparated_iff.1 h').trans (commaSeparated_iff.1 h).symm⟩,
  .verbatim id "TMUXDRIVE_END_MARKER_PREFIX" (·.run.marker)]

/-- The value that a setting must have: what the file says where its variable is not set or blank, else
what the trimmed text of the variable stands for. -/
inductive Setting.Means (s : Setting) (env : Environment) (file : Config) : s.Value → Prop where
  | unset (h : env s.name = none) : Means s env file (s.get file)
  | blank {raw : String} (h : env s.name = some raw) (hblank : Text.isBlank raw = true) :
      Means s env file (s.get file)
  | replaced {raw text : String} {v : s.Value} (h : env s.name = some raw)
      (hblank : Text.isBlank raw = false) (htrim : Text.Trims raw text) (hv : s.Reads text v) :
      Means s env file v

section Texts

variable {name raw : String}

theorem Environment.text?_of_unset (h : env name = none) : env.text? name = none := by
  simp [Environment.text?, h]

theorem Environment.text?_of_some (h : env name = some raw) :
    env.text? name = if Text.isBlank raw = false then some (Text.trim raw) else none := by
  simp [Environment.text?, h, Option.filter_some, Text.isEmpty_trim]

end Texts

theorem Setting.means_iff {s : Setting} {v : s.Value} :
    s.Means env file v ↔ match env.text? s.name with
      | some text => s.Reads text v
      | none => v = s.get file := by
  constructor
  · intro h
    cases h with
    | unset h => rw [Environment.text?_of_unset h]
    | blank h hblank => rw [Environment.text?_of_some h, if_neg (by simp [hblank])]
    | replaced h hblank htrim hv =>
      rw [Environment.text?_of_some h, if_pos hblank, ← Text.trims_iff.1 htrim]
      exact hv
  · intro h
    rcases henv : env s.name with _ | raw
    · rw [Environment.text?_of_unset henv] at h
      exact h ▸ .unset henv
    rw [Environment.text?_of_some henv] at h
    rcases hblank : Text.isBlank raw
    · rw [if_pos hblank] at h
      exact .replaced henv hblank (Text.trims_trim raw) h
    · rw [if_neg (by simp [hblank])] at h
      exact h ▸ .blank henv hblank

/-- There is one such value, and it depends on no other variable. -/
theorem Setting.Means.unique {s : Setting} {v v' : s.Value} (hagree : env' s.name = env s.name)
    (h : s.Means env file v) (h' : s.Means env' file v') : v' = v := by
  have htext : env'.text? s.name = env.text? s.name := by
    unfold Environment.text?
    rw [hagree]
  rw [means_iff] at h h'
  rw [htext] at h'
  cases htext : env.text? s.name with
  | none =>
    rw [htext] at h h'
    exact h'.trans h.symm
  | some text =>
    rw [htext] at h h'
    exact s.unique h h'

/-- A configuration with the values of the environment in its place, and a kind. -/
def withKind (file : Config) (env : Environment) (kind : Kind) : Config where
  target := {
    kind
    host := (env.text? "TMUXDRIVE_SSH_HOST").or file.target.host
    container := (env.text? "TMUXDRIVE_CONTAINER").or file.target.container }
  tmux := { binary := (env.text? "TMUXDRIVE_TMUX_BIN").getD file.tmux.binary }
  polling := { file.polling with
    commandTimeout := (env.text? "TMUXDRIVE_COMMAND_TIMEOUT").or file.polling.commandTimeout }
  prompt := {
    suffixes := ((env.text? "TMUXDRIVE_PROMPT_SUFFIXES").map splitCommas).getD file.prompt.suffixes }
  run := { marker := (env.text? "TMUXDRIVE_END_MARKER_PREFIX").getD file.run.marker }

/-- Only the kind can be wrong. -/
theorem override_eq (file : Config) (env : Environment) :
    file.override env =
      (match env.text? "TMUXDRIVE_TARGET" with
        | some raw => kindOf raw
        | none => .ok file.target.kind).map (file.withKind env) := by
  unfold override
  cases env.text? "TMUXDRIVE_TARGET" with
  | none => rfl
  | some raw =>
    dsimp only
    cases kindOf raw <;> rfl

/-- Every setting is replaced by what its own variable says, and what no variable replaces is as the
file says. -/
theorem of_override (h : file.override env = .ok config) :
    (∀ s ∈ overridable, s.Means env file (s.get config)) ∧
      config.polling = { file.polling with commandTimeout := config.polling.commandTimeout } := by
  rw [override_eq] at h
  obtain ⟨kind, hkind, rfl⟩ := map_eq_ok.1 h
  refine ⟨?_, rfl⟩
  simp only [overridable, List.forall_mem_cons, Setting.means_iff]
  refine ⟨?_, ?_, ?_, ?_, ?_, ?_, ?_, nofun⟩
  · rcases hraw : env.text? "TMUXDRIVE_TARGET" with _ | raw
    · rw [hraw] at hkind
      cases hkind
      rfl
    · rw [hraw] at hkind
      exact kindOf_eq_ok_iff.1 hkind
  all_goals
    unfold withKind
    dsimp only [Setting.verbatim]
    split
    all_goals
      rename_i hraw
      rw [hraw]
      first
      | rfl
      | exact commaSeparated_iff.2 rfl

end Config

end PaneRunner
