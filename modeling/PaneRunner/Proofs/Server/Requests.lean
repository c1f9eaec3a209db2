import PaneRunner.Proofs.Plan.Actions
import PaneRunner.Simulation.Server

/-
  Requests to the server. Without failures on order a subcommand does what its definition says, and
  the call is logged (`executor_run`). `watching` is the server as an executor that notes in which
  states the pipe of a window was closed; every other request passes unnoticed (`watching_of_ne`).
-/
namespace PaneRunner.Simulation.Server

open Plan

/-- The server with another log of calls. -/
def withCalls (server : Server) (calls : List (List String)) : Server := { server with calls }

/-- The server with one more call in its log. -/
def heard (server : Server) (argv : List String) : Server :=
  server.withCalls (argv :: server.calls)

theorem takeFailure?_of_failures {server : Server} (h : server.failures = []) (name : String) :
    server.takeFailure? name = none := by
  rw [takeFailure?, h]
  rfl

theorem executor_run {server : Server} (h : server.failures = []) (program name : String)
    (args : List String) (acceptAny : Bool) :
    executor (.run { argv := program :: name :: args, acceptAny }) server =
      { value := (((server.heard (program :: name :: args)).subcommand name args).1).judge acceptAny
          (Text.join " " (program :: name :: args))
        state := ((server.heard (program :: name :: args)).subcommand name args).2 } := by
  have hheard : (server.heard (program :: name :: args)).failures = [] := h
  have hnone := takeFailure?_of_failures hheard name
  rw [heard, withCalls] at hnone
  simp only [executor, invoke, command, hnone, heard, withCalls]

/-- The request that closes the pipe of a window. -/
def closing (cfg : Tmux.Settings) (w : Tmux.Window) : Exec.Request :=
  .run { argv := [cfg.binary, "pipe-pane", "-t", w.target, ""] }

/-- The server as an executor that notes, the latest first, in which states it was asked to close
the pipe of a window. -/
def watching (cfg : Tmux.Settings) (w : Tmux.Window) :
    Executor Exec.Answer (Server × List Server) :=
  executor.watched fun r server => if r = closing cfg w then some server else none

variable {cfg : Tmux.Settings} {w : Tmux.Window} {server server' : Server} {log : List Server}

theorem watching_of_ne {r : Exec.Request} (h : r ≠ closing cfg w) :
    watching cfg w r (server, log) =
      { value := (executor r server).value
        took := (executor r server).took
        state := ((executor r server).state, log) } := by
  rw [watching, Executor.watched]
  dsimp only
  rw [if_neg h]
  rfl

theorem run_ne_closing {name : String} {args : List String} {acceptAny : Bool}
    (h : name :: args ≠ ["pipe-pane", "-t", w.target, ""]) :
    Exec.Request.run { argv := cfg.binary :: name :: args, acceptAny } ≠ closing cfg w := by
  intro e
  rw [closing, Exec.Request.run.injEq, Exec.Invocation.mk.injEq, List.cons.injEq] at e
  exact h e.1.2

/-- A subcommand that goes well, whatever is noted of requests. -/
theorem ends_tmux_watched {ω : Type} (view : Exec.Request → Server → Option ω) (log : List ω)
    {name : String} {args : List String} {stdout : String} (hfail : server.failures = [])
    (hsub : (server.heard (cfg.binary :: name :: args)).subcommand name args =
      server'.accept stdout) :
    Ends (executor.watched view) (cfg.tmux (name :: args)).run (server, log)
      (.ok (server'.accept stdout).1)
      (server', (view (.run { argv := cfg.binary :: name :: args }) server).toList ++ log) := by
  refine Ends.ofAnswer (a := .ok (server'.accept stdout).1) (Ends.request ?_ ?_)
  · rw [Executor.watched, executor_run hfail, hsub]
    rfl
  · rw [Executor.watched, executor_run hfail, hsub]
    rfl

/-- A subcommand that goes well. -/
theorem ends_tmux {name : String} {args : List String} {stdout : String}
    (hfail : server.failures = []) (h : name :: args ≠ ["pipe-pane", "-t", w.target, ""])
    (hsub : (server.heard (cfg.binary :: name :: args)).subcommand name args =
      server'.accept stdout) :
    Ends (watching cfg w) (cfg.tmux (name :: args)).run (server, log)
      (.ok (server'.accept stdout).1) (server', log) := by
  have hends := ends_tmux_watched (fun r server => if r = closing cfg w then some server else none)
    log hfail hsub
  rw [if_neg (run_ne_closing h)] at hends
  exact hends

/-- Closing the pipe is noticed. -/
theorem ends_closing {stdout : String} (hfail : server.failures = [])
    (hsub : (server.heard [cfg.binary, "pipe-pane", "-t", w.target, ""]).subcommand "pipe-pane"
      ["-t", w.target, ""] = server'.accept stdout) :
    Ends (watching cfg w) (cfg.tmux ["pipe-pane", "-t", w.target, ""]).run (server, log)
      (.ok (server'.accept stdout).1) (server', server :: log) := by
  have hends := ends_tmux_watched (fun r server => if r = closing cfg w then some server else none)
    log hfail hsub
  rw [closing, if_pos rfl] at hends
  exact hends

/-- A subcommand whose exit code does not matter. -/
theorem ends_tmuxAny {name : String} {args : List String} {o : Exec.Output}
    (hfail : server.failures = []) (h : name :: args ≠ ["pipe-pane", "-t", w.target, ""])
    (hsub : (server.heard (cfg.binary :: name :: args)).subcommand name args = (o, server')) :
    Ends (watching cfg w) (cfg.tmuxAny (name :: args)).run (server, log) (.ok o) (server', log) := by
  refine Ends.ofAnswer (a := .ok o) (Ends.request ?_ ?_)
  · rw [watching_of_ne (run_ne_closing h), executor_run hfail, hsub]
    rfl
  · rw [watching_of_ne (run_ne_closing h), executor_run hfail, hsub]

end PaneRunner.Simulation.Server
