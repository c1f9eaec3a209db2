import PaneRunner.Cli.CarryOut
import PaneRunner.Proofs.Config.Sources

/-
  What outweighs what. The options of a command line are put in place of what the file and the
  environment say, but only of what is valid by itself: a configuration is validated before the
  options and after them (`configure_eq`). Options change the target and the program and nothing
  else, so when the outcome is valid those two alone decide whether it is reached
  (`configure_of_valid`).
-/
namespace PaneRunner

open Text

namespace Config

variable {c : Config} {args : Cli.Args}

/-! ## What options change -/

theorem withArgs_sections (c : Config) (args : Cli.Args) :
    (c.withArgs args).polling = c.polling ∧ (c.withArgs args).prompt = c.prompt ∧
      (c.withArgs args).run = c.run := by
  unfold withArgs
  cases args.ssh <;> cases args.container <;> cases args.tmuxBin <;> exact ⟨rfl, rfl, rfl⟩

/-- A name that must be there is the given one, trimmed. -/
theorem eq_of_required {raw field kind : String} {make : String → Target} {target : Target}
    (h : (required (some raw) field kind).map make = .ok target) : target = make (trim raw) := by
  unfold required at h
  split at h
  · rename_i name hname
    have htrim : some (trim raw) = some name := (Option.filter_eq_some_iff.1 hname).1
    cases htrim
    cases h
    rfl
  · cases h

/-- The target is the one that an option names. -/
theorem target_withArgs {target : Target} (hone : args.ssh = none ∨ args.container = none)
    (h : (c.withArgs args).targetOf = .ok target) :
    (∀ host, args.ssh = some host → target = .ssh (trim host)) ∧
      ∀ name, args.container = some name → target = .container (trim name) := by
  constructor
  · intro host hssh
    have hcontainer : args.container = none := by
      rcases hone with hnone | hnone
      · rw [hssh] at hnone
        cases hnone
      · exact hnone
    have hnamed : (c.withArgs args).targetOf = (required (some host) "host" "ssh").map .ssh := by
      unfold withArgs
      rw [hssh, hcontainer]
      cases args.tmuxBin <;> rfl
    rw [hnamed] at h
    exact eq_of_required h
  · intro name hcontainer
    have hnamed : (c.withArgs args).targetOf =
        (required (some name) "container" "container").map .container := by
      unfold withArgs
      rw [hcontainer]
      cases args.ssh <;> cases args.tmuxBin <;> rfl
    rw [hnamed] at h
    exact eq_of_required h

/-- The environment only has to name a kind that there is. -/
theorem exists_override (c : Config) {env : Environment}
    (hkind : ∀ raw, env.text? "TMUXDRIVE_TARGET" = some raw → ∃ k, kindOf raw = .ok k) :
    ∃ config, c.override env = .ok config := by
  rw [override_eq]
  cases hraw : env.text? "TMUXDRIVE_TARGET" with
  | none => exact ⟨_, rfl⟩
  | some raw =>
    obtain ⟨k, hk⟩ := hkind raw hraw
    dsimp only
    rw [hk]
    exact ⟨_, rfl⟩

end Config

namespace Cli

variable {args : Args} {parse : String → Option Config}
  {read : String → Except Machine.OsError String} {env : Config.Environment}
  {root source : Option String} {text : String} {file config : Config}

/-- The configuration phase of a command line: what is loaded, with the options in its place. -/
def Args.configure (args : Args) (parse : String → Option Config)
    (read : String → Except Machine.OsError String) (env : Config.Environment)
    (root : Option String) : Except Config.Error Setup :=
  (Config.loadWith parse read env root args.config).bind fun l => args.setup l.config

/-- A command line is carried out with what its configuration phase comes to. -/
theorem Args.carryOut_eq (args : Args) (bounds : Bounds) (m : Machine) :
    args.carryOut bounds m =
      match args.configure Config.parse? m.readText m.var? m.configRoot with
      | .error e => (some (.ofFailure (.config e)), m)
      | .ok s => s.carryOut bounds args.command m := rfl

theorem configure_eq (hsource : Config.sourceText read root args.config = .ok (text, source))
    (hparse : parse text = some file) (hconfig : file.override env = .ok config) :
    args.configure parse read env root = config.validate.bind fun _ => args.setup config := by
  unfold Args.configure
  rw [Config.loadWith_eq, hsource]
  change ((Config.ofText parse env text).map _).bind _ = _
  rw [Config.ofText_of_override hparse hconfig]
  cases config.validate with
  | error e => rfl
  | ok _ => rfl

/-- What a valid configuration is set up as. -/
theorem setup_of_valid (h : (config.withArgs args).Valid) :
    ∃ target settings, (config.withArgs args).targetOf = .ok target ∧
      (config.withArgs args).settings = .ok settings ∧
      args.setup config = .ok ⟨config.withArgs args, target, settings⟩ := by
  obtain ⟨target, htarget⟩ := h.target
  obtain ⟨settings, hsettings, -⟩ := h.settings
  refine ⟨target, settings, htarget, hsettings, ?_⟩
  unfold Args.setup
  dsimp only
  rw [Config.validate_eq_ok_iff.2 h, htarget, hsettings]
  rfl

/-- Under options with which the configuration is valid, the target is the one that an option
names, and the configuration phase comes to just that configuration if and only if the file and
the environment name a complete target and a program by themselves. If not, it ends with what is
wrong with those. -/
theorem configure_of_valid (hone : args.ssh = none ∨ args.container = none)
    (hsource : Config.sourceText read root args.config = .ok (text, source))
    (hparse : parse text = some file)
    (hkind : ∀ raw, env.text? "TMUXDRIVE_TARGET" = some raw → ∃ k, Config.kindOf raw = .ok k) :
    ∃ config, file.override env = .ok config ∧ ((config.withArgs args).validate = .ok () →
      ∃ target settings, (config.withArgs args).targetOf = .ok target ∧
        (config.withArgs args).settings = .ok settings ∧
        (∀ host, args.ssh = some host → target = .ssh (trim host)) ∧
        (∀ name, args.container = some name → target = .container (trim name)) ∧
        (args.configure parse read env root = .ok ⟨config.withArgs args, target, settings⟩ ↔
          (∃ t, config.targetOf = .ok t) ∧ isBlank config.tmux.binary = false) ∧
        ∀ e, args.configure parse read env root = .error e ↔ config.validate = .error e) := by
  obtain ⟨config, hconfig⟩ := Config.exists_override file hkind
  refine ⟨config, hconfig, fun hvalid => ?_⟩
  have hvalid := Config.validate_eq_ok_iff.1 hvalid
  obtain ⟨target, settings, htarget, hsettings, hsetup⟩ := setup_of_valid hvalid
  obtain ⟨hssh, hcontainer⟩ := Config.target_withArgs hone htarget
  -- what the options leave alone is as valid without them as with them
  obtain ⟨hpolling, hprompt, hrun⟩ := Config.withArgs_sections config args
  have halone : config.validate = .ok () ↔
      (∃ t, config.targetOf = .ok t) ∧ isBlank config.tmux.binary = false := by
    rw [Config.validate_eq_ok_iff]
    exact hvalid.iff_of_sections hpolling.symm hprompt.symm hrun.symm
  refine ⟨target, settings, htarget, hsettings, hssh, hcontainer, ?_, ?_⟩
  · rw [← halone, configure_eq hsource hparse hconfig, hsetup]
    cases config.validate with
    | error e => exact ⟨nofun, nofun⟩
    | ok _ => exact ⟨fun _ => rfl, fun _ => rfl⟩
  · intro e
    rw [configure_eq hsource hparse hconfig, hsetup]
    cases config.validate with
    | error e' =>
      constructor
      · rintro ⟨⟩
        rfl
      · rintro ⟨⟩
        rfl
    | ok _ => exact ⟨nofun, nofun⟩

/-- A directory that holds nothing but a configuration file. -/
def holding (text path : String) : Except Machine.OsError String :=
  if path = Config.fileName then .ok text else .error .notFound

/-- The file names a host, the option another one. -/
theorem configure_of_valid_host :
    let args : Args := { command := .sessions, ssh := some " me@host" }
    let text := "[target]\nkind = \"ssh\"\nhost = \"other\"\n"
    ∃ setup, setup.target = .ssh "me@host" ∧
      args.configure Config.parse? (holding text) (fun _ => none) none = .ok setup := by
  have hvalid : (({ target := { kind := .ssh, host := some "other" } } : Config).withArgs
      { command := .sessions, ssh := some " me@host" }).validate = .ok () := by rfl
  intro args text
  have hone : args.ssh = none ∨ args.container = none := Or.inr rfl
  have hsource : Config.sourceText (holding text) none args.config =
      .ok (text, some Config.fileName) := by rfl
  have hparse : Config.parse? text = some { target := { kind := .ssh, host := some "other" } } := by
    decide +kernel
  have hkind : ∀ raw, Config.Environment.text? (fun _ => none) "TMUXDRIVE_TARGET" = some raw →
      ∃ k, Config.kindOf raw = .ok k := nofun
  obtain ⟨config, hconfig, hphase⟩ := configure_of_valid hone hsource hparse hkind
  obtain rfl : { target := { kind := .ssh, host := some "other" } } = config :=
    Except.ok.inj hconfig
  obtain ⟨target, settings, -, -, hssh, -, hiff, -⟩ := hphase hvalid
  exact ⟨_, hssh _ rfl, hiff.2 ⟨⟨_, rfl⟩, by rfl⟩⟩

/-- The file names a kind and leaves the host to the option. -/
theorem configure_refuses_incomplete_file :
    let args : Args := { command := .sessions, ssh := some "me@host" }
    let config : Config := { target := { kind := .ssh } }
    Config.parse? "[target]\nkind = \"ssh\"\n" = some config ∧
      config.override (fun _ => none) = .ok config ∧ (config.withArgs args).validate = .ok () ∧
      args.configure Config.parse? (holding "[target]\nkind = \"ssh\"\n") (fun _ => none) none =
        .error (.invalid "target.host is required when target.kind = \"ssh\"") := by
  have hparse : Config.parse? "[target]\nkind = \"ssh\"\n" =
      some { target := { kind := .ssh } } := by decide +kernel
  have hsource : Config.sourceText (holding "[target]\nkind = \"ssh\"\n") none none =
      .ok ("[target]\nkind = \"ssh\"\n", some Config.fileName) := by rfl
  have hinvalid : ({ target := { kind := .ssh } } : Config).validate =
      .error (.invalid "target.host is required when target.kind = \"ssh\"") := by rfl
  have hconfig : ({ target := { kind := .ssh } } : Config).override (fun _ => none) =
      .ok { target := { kind := .ssh } } := by rfl
  refine ⟨hparse, hconfig, by rfl, ?_⟩
  rw [configure_eq hsource hparse hconfig, hinvalid]
  rfl

end Cli

end PaneRunner
