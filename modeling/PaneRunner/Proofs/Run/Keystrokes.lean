import PaneRunner.Proofs.Run.TypedLine
import PaneRunner.Proofs.Server.Scene
import PaneRunner.Tmux.View

/-
  Keystrokes on their way into a window. `handed?` says which line a request hands to the responder.
  Tokens that are texts and Enter keys are split at the keys, and what stands between two of them
  makes up a line (`typedTexts`). One token is one call and one change of the window (`ends_text`,
  `ends_enterKey`), so the lines arrive in their order, and what follows the last key is left in the
  window (`ends_tokens`).
-/
namespace PaneRunner

namespace Tmux

/-- What the tokens between one key and the next type, and what those after the last key type. -/
def typedTexts (tokens : List String) : List String := (tokens.splitOnP isKey).map String.join

variable {token : String} {tokens : List String}

theorem typedTexts_ne_nil (tokens : List String) : typedTexts tokens ≠ [] :=
  mt List.map_eq_nil_iff.1 (List.splitOnP_ne_nil isKey tokens)

theorem typedTexts_key (h : isKey token = true) :
    typedTexts (token :: tokens) = "" :: typedTexts tokens := by
  rw [typedTexts, List.splitOnP_cons_eq_if_modifyHead, if_pos h]
  rfl

theorem typedTexts_text (h : isKey token = false) :
    typedTexts (token :: tokens) = (typedTexts tokens).modifyHead (token ++ ·) := by
  rw [typedTexts, List.splitOnP_cons_eq_if_modifyHead, if_neg (Bool.eq_false_iff.1 h), typedTexts]
  cases tokens.splitOnP isKey with
  | nil => rfl
  | cons first rest =>
    rw [List.modifyHead_cons, List.map_cons, String.join_cons]
    rfl

/-- The texts when `input` stands in the window already. -/
def textsAfter (input : String) (tokens : List String) : List String :=
  (typedTexts tokens).modifyHead (input ++ ·)

theorem textsAfter_empty (tokens : List String) : textsAfter "" tokens = typedTexts tokens := by
  rw [textsAfter]
  cases typedTexts tokens with
  | nil => rfl
  | cons first rest => rw [List.modifyHead_cons, String.empty_append]

theorem textsAfter_nil (input : String) : textsAfter input [] = [input] := by
  rw [textsAfter, typedTexts, List.splitOnP_nil]
  exact congrArg (fun text => [text]) String.append_empty

theorem textsAfter_key (input : String) (h : isKey token = true) :
    textsAfter input (token :: tokens) = input :: typedTexts tokens := by
  rw [textsAfter, typedTexts_key h, List.modifyHead_cons, String.append_empty]

theorem textsAfter_text (input : String) (h : isKey token = false) :
    textsAfter input (token :: tokens) = textsAfter (input ++ token) tokens := by
  rw [textsAfter, typedTexts_text h, textsAfter]
  cases typedTexts tokens with
  | nil => rfl
  | cons first rest =>
    rw [List.modifyHead_cons, List.modifyHead_cons, List.modifyHead_cons, String.append_assoc]

end Tmux

namespace Simulation

open Text Plan

/-! ## The pane -/

namespace Server

theorem extendLast_empty (pane : List String) : extendLast pane "" = pane := by
  unfold extendLast
  split
  · rename_i last hlast
    rw [String.append_empty, List.dropLast_append_getLast? last hlast]
  · rename_i hnone
    exact (List.getLast?_eq_none_iff.1 hnone).symm

theorem extendLast_extendLast (pane : List String) (first second : String) :
    extendLast (extendLast pane first) second = extendLast pane (first ++ second) := by
  cases hlast : pane.getLast? with
  | none => simp [extendLast, hlast]
  | some last => simp [extendLast, hlast, String.append_assoc]

/-- The pane after a line was typed and answered. -/
def answered (respond : String → List String) (pane : List String) (line : String) : List String :=
  extendLast pane line ++ respond line

/-- The pane after texts were typed, all but the last of them with an Enter. -/
def played (respond : String → List String) (pane texts : List String) : List String :=
  extendLast (texts.dropLast.foldl (answered respond) pane) (texts.getLastD "")

theorem played_singleton (respond : String → List String) (pane : List String) (text : String) :
    played respond pane [text] = extendLast pane text := rfl

/-! ## What the responder is asked -/

/-- The line that keys in a window enter, if it has no end marker. -/
def lineFor? (w : Window) : List String → Option String
  | "enter" :: _ | "Enter" :: _ =>
    if contains w.input Tmux.markerCommand then none else some w.input
  | _ => none

/-- The line that a call with these arguments hands to the responder. -/
def entered? (server : Server) (args : List String) : Option String :=
  (server.window? ((flagValue? args "-t").getD "")).bind fun w => lineFor? w (args.drop 2)

/-- The line that a request hands to the responder. -/
def handed? (r : Exec.Request) (server : Server) : Option String :=
  match r with
  | .run i => match i.argv with
    | _ :: "send-keys" :: args =>
      if (server.takeFailure? "send-keys").isSome then none else server.entered? args
    | _ => none
  | _ => none

/-- The server as an executor that notes, the latest first, the lines it hands to its responder. -/
def handing : Executor Exec.Answer (Server × List String) := executor.watched handed?

end Server

/-! ## One token -/

namespace Scene

open Server

variable (cfg : Tmux.Settings) {w : Tmux.Window} {server : Server} {address : String} {x : Window}
  (sc : Scene) (log : List String)

/-- The scene after a line was entered that has no end marker. -/
def answer (respond : String → List String) : Scene :=
  { sc with pane := sc.pane ++ respond sc.input, input := "" }

theorem sendKeys_on_line (h : server.window? address = some x) {key : String}
    (hkey : key = "enter" ∨ key = "Enter")
    (hplain : contains sc.input Tmux.markerCommand = false) :
    (sc.on server address).sendKeys ["-t", address, key] =
      ((sc.answer server.responder).on server address).accept "" := by
  have htarget : flagValue? ["-t", address, key] "-t" = some address := rfl
  have hcleared : ((sc.on server address).onWindow address fun w => { w with input := "" }) =
      ({ sc with input := "" } : Scene).on server address := onWindow_on fun _ => rfl
  have hanswered : (({ sc with input := "" } : Scene).on server address).onWindow address
      (fun w => { w with pane := w.pane ++ server.responder sc.input }) =
        (sc.answer server.responder).on server address := onWindow_on fun _ => rfl
  have hsubmit : (({ sc with input := "" } : Scene).on server address).submit address sc.input =
      (sc.answer server.responder).on server address := by
    rw [submit, contains_eq_false_iff.1 hplain]
    exact hanswered
  have hpress : (sc.on server address).press address (sc.window x) [key] =
      ((sc.on server address).onWindow address fun w => { w with input := "" }).submit address
        sc.input := by
    rcases hkey with rfl | rfl <;> rfl
  rw [sendKeys, htarget, Option.getD_some, window?_on h]
  refine congrArg (fun s => accept s "") ?_
  exact hpress.trans (hcleared ▸ hsubmit)

theorem handed?_on (hfail : server.failures = []) (h : server.window? w.target = some x)
    (keys : List String) :
    handed? (.run { argv := cfg.binary :: "send-keys" :: "-t" :: w.target :: keys })
        (sc.on server w.target) =
      lineFor? (sc.window x) keys := by
  have hscene : (sc.on server w.target).failures = [] := hfail
  have htarget : flagValue? ("-t" :: w.target :: keys) "-t" = some w.target := rfl
  change (if ((sc.on server w.target).takeFailure? "send-keys").isSome then none
    else (sc.on server w.target).entered? ("-t" :: w.target :: keys)) = _
  rw [takeFailure?_of_failures hscene, Option.isSome_none, if_neg Bool.false_ne_true, entered?,
    htarget, Option.getD_some, window?_on h]
  rfl

/-- A call that types keys. -/
theorem ends_keys {sc' : Scene} (hfail : server.failures = [])
    (h : server.window? w.target = some x) {keys : List String}
    (hkeys : ((sc.heard (cfg.binary :: "send-keys" :: "-t" :: w.target :: keys)).on server
      w.target).sendKeys ("-t" :: w.target :: keys) = (sc'.on server w.target).accept "") :
    Ends handing (cfg.tmux ("send-keys" :: "-t" :: w.target :: keys)).run
      (sc.on server w.target, log) (.ok ((sc'.on server w.target).accept "").1)
      (sc'.on server w.target, (lineFor? (sc.window x) keys).toList ++ log) := by
  have hscene : (sc.on server w.target).failures = [] := hfail
  have hsub : ((sc.on server w.target).heard (cfg.binary :: "send-keys" :: "-t" :: w.target ::
      keys)).subcommand "send-keys" ("-t" :: w.target :: keys) =
        (sc'.on server w.target).accept "" := hkeys
  have hends := ends_tmux_watched handed? log hscene hsub
  rw [handed?_on cfg sc hfail h] at hends
  exact hends

/-- A key enters what stands in the window. -/
theorem ends_enterKey (hfail : server.failures = []) (h : server.window? w.target = some x)
    {token : String} (htoken : Tmux.isKey token = true) (hkey : token = "enter" ∨ token = "Enter")
    (hplain : contains sc.input Tmux.markerCommand = false) :
    ∃ o, Ends handing (cfg.tmux (Tmux.keyArgs w.target token)).run (sc.on server w.target, log)
      (.ok o) (((sc.answer server.responder).heard
        (cfg.binary :: Tmux.keyArgs w.target token)).on server w.target, sc.input :: log) := by
  have hline : lineFor? (sc.window x) [token] = some sc.input := by
    have hinput : (if contains (sc.window x).input Tmux.markerCommand then none
        else some (sc.window x).input) = some sc.input := if_neg (Bool.eq_false_iff.1 hplain)
    rcases hkey with rfl | rfl <;> exact hinput
  have hentered := sendKeys_on_line
    (sc.heard (cfg.binary :: "send-keys" :: "-t" :: w.target :: [token])) h hkey hplain
  have hends := ends_keys cfg sc log hfail h hentered
  rw [hline] at hends
  rw [Tmux.keyArgs_of_key htoken]
  exact ⟨_, hends⟩

/-- Any other token is added to it. -/
theorem ends_text (hfail : server.failures = []) (h : server.window? w.target = some x)
    {token : String} (htoken : Tmux.isKey token = false) :
    ∃ o, Ends handing (cfg.tmux (Tmux.keyArgs w.target token)).run (sc.on server w.target, log)
      (.ok o) (((sc.type token).heard (cfg.binary :: Tmux.keyArgs w.target token)).on server
        w.target, log) := by
  have htyped := sendKeys_on_text
    (sc.heard (cfg.binary :: "send-keys" :: "-t" :: w.target :: "-H" :: Tmux.hexBytes token)) h
    (Tmux.hexBytes token)
  rw [Tmux.typedText_hexBytes] at htyped
  rw [Tmux.keyArgs_of_text htoken]
  exact ⟨_, ends_keys cfg sc log hfail h htyped⟩

/-! ## All tokens -/

/-- The calls that type tokens, the latest first. -/
def keyCalls (w : Tmux.Window) (tokens : List String) : List (List String) :=
  (tokens.map fun token => cfg.binary :: Tmux.keyArgs w.target token).reverse

theorem keyCalls_cons (token : String) (tokens : List String) (calls : List (List String)) :
    keyCalls cfg w (token :: tokens) ++ calls =
      keyCalls cfg w tokens ++ (cfg.binary :: Tmux.keyArgs w.target token) :: calls := by
  rw [keyCalls, List.map_cons, List.reverse_cons, List.append_assoc]
  rfl

/-- The scene after texts were typed on a pane, all but the last of them with an Enter. -/
def playedOn (respond : String → List String) (pane texts : List String)
    (calls : List (List String)) : Scene :=
  { sc with input := texts.getLastD "", pane := played respond pane texts, calls }

theorem playedOn_cons (respond : String → List String) (pane : List String) (line : String)
    {texts : List String} (h : texts ≠ []) (calls : List (List String)) :
    sc.playedOn respond pane (line :: texts) calls =
      sc.playedOn respond (answered respond pane line) texts calls := by
  obtain ⟨text, rest, rfl⟩ := List.exists_cons_of_ne_nil h
  rfl

/-- Typing tokens after what stands in the window already. By induction on the tokens: `pane` is the
pane as it was before the line that is being typed. -/
theorem ends_tokens (hfail : server.failures = []) (h : server.window? w.target = some x)
    {tokens pane : List String} (hpane : sc.pane = extendLast pane sc.input)
    (hkeys : ∀ token ∈ tokens, Tmux.isKey token = true → token = "enter" ∨ token = "Enter")
    (hplain : ∀ line ∈ (Tmux.textsAfter sc.input tokens).dropLast,
      contains line Tmux.markerCommand = false) :
    Ends handing (w.sendKeys cfg tokens).run (sc.on server w.target, log) (.ok ())
      ((sc.playedOn server.responder pane (Tmux.textsAfter sc.input tokens)
        (keyCalls cfg w tokens ++ sc.calls)).on server w.target,
        (Tmux.textsAfter sc.input tokens).dropLast.reverse ++ log) := by
  induction tokens generalizing sc pane log with
  | nil =>
    have hsame : sc.playedOn server.responder pane (Tmux.textsAfter sc.input [])
        (keyCalls cfg w [] ++ sc.calls) = sc := by
      rw [Tmux.textsAfter_nil, playedOn, played_singleton, ← hpane]
      rfl
    rw [hsame, Tmux.textsAfter_nil]
    exact Ends.pure () _
  | cons token tokens ih =>
    have hrest := fun t ht => hkeys t (List.mem_cons_of_mem token ht)
    have hkey := hkeys token List.mem_cons_self
    cases htoken : Tmux.isKey token with
    | true =>
      have hne := Tmux.typedTexts_ne_nil tokens
      rw [Tmux.textsAfter_key _ htoken, List.dropLast_cons_of_ne_nil hne] at hplain ⊢
      obtain ⟨hline, hlines⟩ := List.forall_mem_cons.1 hplain
      obtain ⟨o, hends⟩ := ends_enterKey cfg sc log hfail h htoken (hkey htoken) hline
      let next := (sc.answer server.responder).heard (cfg.binary :: Tmux.keyArgs w.target token)
      have hinput : next.input = "" := rfl
      have hpane' : next.pane = extendLast (answered server.responder pane sc.input) next.input := by
        rw [hinput, extendLast_empty, answered, ← hpane]
        rfl
      have hih := ih next (sc.input :: log) hpane' hrest
      rw [hinput, Tmux.textsAfter_empty] at hih
      rw [List.reverse_cons, List.append_assoc, keyCalls_cons, playedOn_cons _ _ _ _ hne]
      exact Ends.seq (Ends.seq hends (Ends.pure () _)) (hih hlines)
    | false =>
      rw [Tmux.textsAfter_text _ htoken] at hplain ⊢
      obtain ⟨o, hends⟩ := ends_text cfg sc log hfail h htoken
      let next := (sc.type token).heard (cfg.binary :: Tmux.keyArgs w.target token)
      have hpane' : next.pane = extendLast pane next.input := by
        change extendLast sc.pane token = extendLast pane (sc.input ++ token)
        rw [hpane, extendLast_extendLast]
      have hih := ih next log hpane' hrest hplain
      rw [keyCalls_cons]
      exact Ends.seq (Ends.seq hends (Ends.pure () _)) hih

end Scene

end Simulation

namespace Tmux.Window

open Plan Simulation.Server

/-- Whatever the responder answers, tokens that are texts and Enter keys reach a window in which nothing
is typed yet as they are: each is one call, what stands between two keys is handed over as one line,
and what follows the last key stays in the window. Nothing else changes. -/
theorem sendKeys_arrives (cfg : Settings) {w : Window} {server : Simulation.Server}
    {s : Simulation.Session} {x : Simulation.Window} (hfail : server.failures = [])
    (hname : ':' ∉ w.session.name.toList) (hs : server.session? w.session.name = some s)
    (hx : s.windows.find? (fun y => y.name == w.name) = some x) (hempty : x.input = "")
    {tokens : List String}
    (hkeys : ∀ token ∈ tokens, isKey token = true → token = "enter" ∨ token = "Enter")
    (hplain : ∀ line ∈ (typedTexts tokens).dropLast, Text.contains line markerCommand = false) :
    let typed : Simulation.Window := { x with
      input := (typedTexts tokens).getLastD ""
      pane := played server.responder x.pane (typedTexts tokens) }
    ∃ server', Ends handing (w.sendKeys cfg tokens).run (server, []) (.ok ())
        (server', (typedTexts tokens).dropLast.reverse) ∧
      server'.window? w.target = some typed ∧
      server' = (server.onWindow w.target fun _ => typed).withCalls
        ((tokens.map fun token => cfg.binary :: keyArgs w.target token).reverse ++ server.calls) := by
  intro typed
  have hwindow : server.window? w.target = some x := by
    rw [window?_of_parse (parseAddress?_target w hname), hs]
    exact hx
  let sc := Simulation.Scene.of server x
  have hpane : sc.pane = extendLast x.pane sc.input := by
    rw [show sc.input = "" from hempty, extendLast_empty]
    rfl
  have hlines : ∀ line ∈ (textsAfter sc.input tokens).dropLast,
      Text.contains line markerCommand = false := by
    rw [show sc.input = "" from hempty, textsAfter_empty]
    exact hplain
  have hends := sc.ends_tokens cfg [] hfail hwindow hpane hkeys hlines
  rw [show sc.input = "" from hempty, textsAfter_empty, Simulation.Scene.of_on hwindow,
    List.append_nil] at hends
  have hchanged : server.onWindow w.target (sc.playedOn server.responder x.pane (typedTexts tokens)
      (Simulation.Scene.keyCalls cfg w tokens ++ sc.calls)).window =
        server.onWindow w.target fun _ => typed := by
    refine onWindow_congr fun y hy => ?_
    cases hwindow.symm.trans hy
    rfl
  refine ⟨_, hends, ?_, ?_⟩
  · rw [Simulation.Scene.window?_on hwindow]
    rfl
  · rw [Simulation.Scene.on_eq rfl rfl rfl, hchanged, onWindow_eq]
    rfl

/-- Two lines, the second of them empty, and a text that is left. -/
theorem sendKeys_arrives_accented :
    let w : Window := ⟨⟨"main", by decide⟩, "work", by decide⟩
    let server : Simulation.Server :=
      { sessions := [{ name := "main", windows := [{ name := "work" }] }] }
    let tokens := ["echo ", "", "é", "enter", "Enter", "rest"]
    ∃ server', Ends handing (w.sendKeys {} tokens).run (server, []) (.ok ())
        (server', ["", "echo é"]) ∧
      server'.window? w.target =
        some { name := "work", pane := ["$ echo é", "$ ", "$ rest"], input := "rest" } := by
  intro w server tokens
  have htexts : typedTexts tokens = ["echo é", "", "rest"] := by decide +kernel
  have hsession : server.session? w.session.name = some ⟨"main", [{ name := "work" }]⟩ := rfl
  have hkeys : ∀ token ∈ tokens, isKey token = true → token = "enter" ∨ token = "Enter" := by
    decide +kernel
  have hplain : ∀ line ∈ (typedTexts tokens).dropLast,
      Text.contains line markerCommand = false := by
    rw [htexts]
    decide +kernel
  have harrives := sendKeys_arrives {} rfl (by decide) hsession rfl rfl hkeys hplain
  rw [htexts] at harrives
  obtain ⟨server', hends, hwindow, -⟩ := harrives
  refine ⟨server', hends, hwindow.trans ?_⟩
  decide +kernel

end Tmux.Window

end PaneRunner
