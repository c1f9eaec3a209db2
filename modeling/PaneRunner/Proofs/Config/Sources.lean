import PaneRunner.Proofs.Config.Valid
import PaneRunner.Proofs.Config.Variables

/-
  The sources of a configuration. The first file that is there is taken (`Chooses`), and what it
  outweighs does not matter (`loadWith_congr`). What a variable of the environment says replaces what
  the file says of its own setting and of nothing else (`of_override`). So environments that agree
  about a variable agree about its setting (`loadWith_env`).
-/
namespace PaneRunner

namespace Config

variable {parse : String → Option Config} {read read' : String → Except Machine.OsError String}
  {env env' : Environment} {root root' explicit source : Option String} {text : String}
  {file config : Config}

/-! ## The file -/

/-- The text that a configuration is read from, and the file that holds it: the file that is named
explicitly, else the local one, else the one below the configuration root, else none. -/
inductive Chooses (read : String → Except Machine.OsError String) (root : Option String) :
    Option String → String → Option String → Prop where
  | explicit {path text : String} (h : read path = .ok text) :
      Chooses read root (some path) text (some path)
  | «local» {text : String} (h : read fileName = .ok text) :
      Chooses read root none text (some fileName)
  | global {e : Machine.OsError} {r text : String} (hlocal : read fileName = .error e)
      (hroot : root = some r) (h : read (globalFile r) = .ok text) :
      Chooses read root none text (some (globalFile r))
  | defaults {e : Machine.OsError} (hlocal : read fileName = .error e)
      (hglobal : ∀ r, root = some r → ∃ e, read (globalFile r) = .error e) :
      Chooses read root none "" none

theorem sourceText_of_chooses (h : Chooses read root explicit text source) :
    sourceText read root explicit = .ok (text, source) := by
  unfold sourceText
  cases h with
  | explicit h => simp only [h]
  | «local» h => simp only [h]
  | global hlocal hroot h => simp only [hlocal, hroot, Option.map_some, h]
  | defaults hlocal hglobal =>
    simp only [hlocal]
    cases root with
    | none => rfl
    | some r =>
      obtain ⟨e, hread⟩ := hglobal r rfl
      simp only [Option.map_some, hread]

/-- Without a file there is nothing to read. -/
theorem Chooses.text_eq (h : Chooses read root explicit text none) : text = "" := by
  cases h
  rfl

/-- Unless an explicit file cannot be read, there is something to read a configuration from. -/
theorem exists_chooses (read : String → Except Machine.OsError String)
    (root explicit : Option String) :
    (∃ path e, explicit = some path ∧ read path = .error e) ∨
      ∃ text source, Chooses read root explicit text source := by
  cases explicit with
  | some path =>
    rcases hread : read path with e | text
    · exact Or.inl ⟨path, e, rfl, hread⟩
    · exact Or.inr ⟨text, _, .explicit hread⟩
  | none =>
    refine Or.inr ?_
    rcases hlocal : read fileName with e | text
    · cases root with
      | none => exact ⟨"", none, .defaults hlocal nofun⟩
      | some r =>
        rcases hglobal : read (globalFile r) with e' | text
        · refine ⟨"", none, .defaults hlocal ?_⟩
          rintro _ ⟨⟩
          exact ⟨e', hglobal⟩
        · exact ⟨text, _, .global hlocal rfl hglobal⟩
    · exact ⟨text, _, .local hlocal⟩

/-- The configuration that a text and the environment come to. -/
def ofText (parse : String → Option Config) (env : Environment) (text : String) :
    Except Error Config :=
  match parse text with
  | none => .error .malformed
  | some file => do
    let config ← file.override env
    config.validate
    pure config

theorem ofText_of_override (hparse : parse text = some file)
    (hconfig : file.override env = .ok config) :
    ofText parse env text = config.validate.map fun _ => config := by
  unfold ofText
  rw [hparse]
  dsimp only
  rw [hconfig]
  change config.validate.bind (fun _ => .ok config) = _
  cases config.validate <;> rfl

theorem loadWith_eq :
    loadWith parse read env root explicit =
      (sourceText read root explicit).bind fun s =>
        (ofText parse env s.1).map fun config => { config, source := s.2 } := by
  unfold loadWith ofText
  rcases sourceText read root explicit with e | ⟨text, source⟩
  · rfl
  change (match parse text with | none => _ | some c => _) =
    Except.map _ (match parse text with | none => _ | some file => _)
  cases parse text with
  | none => rfl
  | some file =>
    simp only [bind, Except.bind]
    cases file.override env with
    | error e => rfl
    | ok config =>
      dsimp only
      cases config.validate <;> rfl

theorem loadWith_of_chooses (h : Chooses read root explicit text source) :
    loadWith parse read env root explicit =
      (ofText parse env text).map fun config => { config, source } := by
  rw [loadWith_eq, sourceText_of_chooses h]
  rfl

/-- An explicit file must be there. -/
theorem loadWith_of_unreadable {path : String} {e : Machine.OsError} (h : read path = .error e) :
    loadWith parse read env root (some path) = .error (.io e.text) := by
  have hsource : sourceText read root (some path) = .error (.io e.text) := by
    simp only [sourceText, h]
  rw [loadWith_eq, hsource]
  rfl

/-- The sources are the same down to the one that is chosen. -/
inductive SameToChosen (read : String → Except Machine.OsError String) (root : Option String)
    (read' : String → Except Machine.OsError String) (root' : Option String) :
    Option String → Prop where
  | explicit {path : String} (h : read' path = read path) :
      SameToChosen read root read' root' (some path)
  | «local» {text : String} (h : read fileName = .ok text) (h' : read' fileName = .ok text) :
      SameToChosen read root read' root' none
  | global (hlocal : read' fileName = read fileName) (hroot : root' = root)
      (hglobal : ∀ r, root = some r → read' (globalFile r) = read (globalFile r)) :
      SameToChosen read root read' root' none

theorem sourceText_congr (h : SameToChosen read root read' root' explicit) :
    sourceText read' root' explicit = sourceText read root explicit := by
  unfold sourceText
  cases h with
  | explicit h => simp only [h]
  | «local» h h' => simp only [h, h']
  | global hlocal hroot hglobal =>
    rw [hlocal, hroot]
    cases root with
    | none => rfl
    | some r => rw [Option.map_some, Option.map_some, hglobal r rfl]

theorem loadWith_congr (h : SameToChosen read root read' root' explicit) :
    loadWith parse read' env root' explicit = loadWith parse read env root explicit := by
  rw [loadWith_eq, loadWith_eq, sourceText_congr h]

/-! ## What is loaded -/

/-- What is loaded comes from the chosen file and the environment, and is valid. -/
theorem of_loadWith {loaded : Loaded} (h : loadWith parse read env root explicit = .ok loaded) :
    ∃ text file, Chooses read root explicit text loaded.source ∧ parse text = some file ∧
      file.override env = .ok loaded.config ∧ loaded.config.validate = .ok () := by
  rcases exists_chooses read root explicit with ⟨path, e, rfl, hread⟩ | ⟨text, source, hchooses⟩
  · rw [loadWith_of_unreadable hread] at h
    cases h
  rw [loadWith_of_chooses hchooses] at h
  obtain ⟨config, hconfig, rfl⟩ := map_eq_ok.1 h
  unfold ofText at hconfig
  rcases hparse : parse text with _ | file
  · rw [hparse] at hconfig
    cases hconfig
  rw [hparse] at hconfig
  obtain ⟨config', hoverride, hconfig⟩ := bind_eq_ok.1 hconfig
  obtain ⟨_, hvalid, hsame⟩ := bind_eq_ok.1 hconfig
  cases hsame
  exact ⟨text, file, hchooses, hparse, hoverride, hvalid⟩

theorem Chooses.unique {text' : String} {source' : Option String}
    (h : Chooses read root explicit text source) (h' : Chooses read root explicit text' source') :
    text' = text ∧ source' = source := by
  have hsame := (sourceText_of_chooses h').symm.trans (sourceText_of_chooses h)
  exact Prod.mk.inj (Except.ok.inj hsame)

/-- Two environments change no setting whose variable they agree about. -/
theorem loadWith_env {loaded loaded' : Loaded}
    (h : loadWith parse read env root explicit = .ok loaded)
    (h' : loadWith parse read env' root explicit = .ok loaded') :
    loaded'.source = loaded.source ∧
      (∀ s ∈ overridable, env' s.name = env s.name → s.get loaded'.config = s.get loaded.config) ∧
      loaded'.config.polling =
        { loaded.config.polling with
          commandTimeout := loaded'.config.polling.commandTimeout } := by
  obtain ⟨text, file, hchooses, hparse, hconfig, -⟩ := of_loadWith h
  obtain ⟨text', file', hchooses', hparse', hconfig', -⟩ := of_loadWith h'
  obtain ⟨rfl, hsource⟩ := hchooses.unique hchooses'
  obtain rfl : file = file' := Option.some.inj (hparse.symm.trans hparse')
  obtain ⟨hvalue, hpolling⟩ := of_override hconfig
  obtain ⟨hvalue', hpolling'⟩ := of_override hconfig'
  refine ⟨hsource, fun s hs hagree => (hvalue s hs).unique hagree (hvalue' s hs), ?_⟩
  rw [hpolling, hpolling']

/-- Configuration sources resolve by precedence, and do not interfere. Loading fails if a file that is
named explicitly cannot be read; else it comes to what the chosen text and the environment come to,
and stays the same whatever becomes of the sources that are outweighed. If it succeeds, each setting is
what its variable says, or what the chosen file says where the variable is not set or blank, all else
is as the file says, and the outcome is valid. Whatever becomes of the environment, a setting whose
variable stays the same stays the same. If the empty text stands for the defaults, they are what the
settings have without a file. -/
theorem sources_resolve (parse : String → Option Config)
    (read : String → Except Machine.OsError String) (env : Environment)
    (root explicit : Option String) :
    ((∃ path e, explicit = some path ∧ read path = .error e ∧
        loadWith parse read env root explicit = .error (.io e.text)) ∨
      ∃ text source, Chooses read root explicit text source ∧
        loadWith parse read env root explicit =
          (ofText parse env text).map fun config => { config, source }) ∧
    (∀ read' root', SameToChosen read root read' root' explicit →
      loadWith parse read' env root' explicit = loadWith parse read env root explicit) ∧
    (∀ loaded, loadWith parse read env root explicit = .ok loaded →
      (∃ text file, Chooses read root explicit text loaded.source ∧ parse text = some file ∧
        ((hempty : parse "" = some {}) → loaded.source = none → file = {}) ∧
        (∀ s ∈ overridable, s.Means env file (s.get loaded.config)) ∧
        loaded.config.polling =
          { file.polling with commandTimeout := loaded.config.polling.commandTimeout }) ∧
      loaded.config.validate = .ok () ∧
      ∀ env' loaded', loadWith parse read env' root explicit = .ok loaded' →
        loaded'.source = loaded.source ∧
        (∀ s ∈ overridable, env' s.name = env s.name →
          s.get loaded'.config = s.get loaded.config) ∧
        loaded'.config.polling =
          { loaded.config.polling with
            commandTimeout := loaded'.config.polling.commandTimeout }) := by
  refine ⟨?_, fun _ _ => loadWith_congr, fun loaded h => ?_⟩
  · rcases exists_chooses read root explicit with ⟨path, e, rfl, hread⟩ | ⟨text, source, hchooses⟩
    · exact Or.inl ⟨path, e, rfl, hread, loadWith_of_unreadable hread⟩
    · exact Or.inr ⟨text, source, hchooses, loadWith_of_chooses hchooses⟩
  · obtain ⟨text, file, hchooses, hparse, hconfig, hvalid⟩ := of_loadWith h
    obtain ⟨hvalue, hpolling⟩ := of_override hconfig
    have hdefaults : parse "" = some {} → loaded.source = none → file = {} := fun hempty hnone => by
      obtain rfl := (hnone ▸ hchooses).text_eq
      exact Option.some.inj (hparse.symm.trans hempty)
    exact ⟨⟨text, file, hchooses, hparse, hdefaults, hvalue, hpolling⟩, hvalid,
      fun _ _ => loadWith_env h⟩

/-- The environment says which host a file means, another program leaves the host alone, and without a
file the program is the default one. -/
theorem sources_resolve_below_root :
    let read : String → Except Machine.OsError String := fun path =>
      if path = "/etc/tmuxdrive/tmuxdrive.toml" then .ok "[target]\nkind = \"ssh\"\n"
      else .error .notFound
    let env : Environment := fun name =>
      if name = "TMUXDRIVE_SSH_HOST" then some " me@box " else none
    let env' : Environment := fun name =>
      if name = "TMUXDRIVE_TMUX_BIN" then some "tmux-next" else env name
    ∃ loaded loaded' bare, loadWith parse? read env (some "/etc") none = .ok loaded ∧
      loadWith parse? read env' (some "/etc") none = .ok loaded' ∧
      loaded.config.validate = .ok () ∧ loaded.config.target.host = some "me@box" ∧
      loaded'.source = loaded.source ∧ loaded'.config.target.host = loaded.config.target.host ∧
      loadWith parse? read env none none = .ok bare ∧ bare.config.tmux.binary = "tmux" := by
  have hparse : parse? "[target]\nkind = \"ssh\"\n" = some { target := { kind := .ssh } } := by
    decide +kernel
  have hempty : parse? "" = some {} := by decide +kernel
  have hconfig : ({ target := { kind := .ssh } } : Config).override
      (fun name => if name = "TMUXDRIVE_SSH_HOST" then some " me@box " else none) =
      .ok { target := { kind := .ssh, host := some "me@box" } } := by rfl
  have hconfig' : ({ target := { kind := .ssh } } : Config).override
      (fun name => if name = "TMUXDRIVE_TMUX_BIN" then some "tmux-next" else
        if name = "TMUXDRIVE_SSH_HOST" then some " me@box " else none) =
      .ok { target := { kind := .ssh, host := some "me@box" }, tmux := { binary := "tmux-next" } } := by
    rfl
  have hbare : ({} : Config).override
      (fun name => if name = "TMUXDRIVE_SSH_HOST" then some " me@box " else none) =
      .ok { target := { host := some "me@box" } } := by rfl
  intro read env env'
  have hchooses : Chooses read (some "/etc") none "[target]\nkind = \"ssh\"\n"
      (some (globalFile "/etc")) :=
    .global (if_neg (by decide +kernel)) rfl (if_pos (by decide +kernel))
  have hload : loadWith parse? read env (some "/etc") none =
      .ok ⟨{ target := { kind := .ssh, host := some "me@box" } }, some (globalFile "/etc")⟩ := by
    rw [loadWith_of_chooses hchooses, ofText_of_override hparse hconfig]
    rfl
  have hload' : loadWith parse? read env' (some "/etc") none =
      .ok ⟨{ target := { kind := .ssh, host := some "me@box" }, tmux := { binary := "tmux-next" } },
        some (globalFile "/etc")⟩ := by
    rw [loadWith_of_chooses hchooses, ofText_of_override hparse hconfig']
    rfl
  have hnothing : Chooses read none none "" none := .defaults (if_neg (by decide +kernel)) nofun
  have hloadBare : loadWith parse? read env none none =
      .ok ⟨{ target := { host := some "me@box" } }, none⟩ := by
    rw [loadWith_of_chooses hnothing, ofText_of_override hempty hbare]
    rfl
  obtain ⟨-, -, hsuccess⟩ := sources_resolve parse? read env (some "/etc") none
  obtain ⟨-, hvalid, henv⟩ := hsuccess _ hload
  obtain ⟨hsource, hsettings, -⟩ := henv env' _ hload'
  have hhost := hsettings (.verbatim some "TMUXDRIVE_SSH_HOST" (·.target.host))
    (.tail _ (.head _)) rfl
  obtain ⟨-, -, hsuccess⟩ := sources_resolve parse? read env none none
  obtain ⟨⟨text, file, -, -, hdefaults, hvalue, -⟩, -, -⟩ := hsuccess _ hloadBare
  obtain rfl := hdefaults hempty rfl
  have hprogram := (hvalue (.verbatim id "TMUXDRIVE_TMUX_BIN" (·.tmux.binary))
    (.tail _ (.tail _ (.tail _ (.head _))))).unique rfl (.unset rfl)
  exact ⟨_, _, _, hload, hload', hvalid, rfl, hsource, hhost, hloadBare, hprogram.symm⟩

end Config

end PaneRunner
