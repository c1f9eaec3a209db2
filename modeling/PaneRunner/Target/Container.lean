import PaneRunner.Target.Process

/-
  A running container, reached with `docker exec` or, if there is no `docker`, `podman exec`. Both
  take an argument vector, so nothing is quoted.
-/
namespace PaneRunner.Target.Container

/-- The program that reaches containers. -/
structure Engine where
  program : String
  /-- whether it is `podman`, be it under the name of `docker` -/
  podman : Bool
  deriving DecidableEq, Repr

/-- What a program says of its version; none if there is no such program. -/
def version? (program : String) (m : Machine) : Except Exec.Error (Option String) × Machine :=
  match m.spawn program ["--version"] with
  | (.ok r, m) => (.ok (some (Text.Utf8.decode r.stdout ++ "\n" ++ Text.Utf8.decode r.stderr)), m)
  | (.error .notFound, m) => (.ok none, m)
  | (.error e, m) =>
    (.error (.executionFailed ("failed to query " ++ program ++ ": " ++ e.text)), m)

/-- Whether a version text is that of `podman`. -/
def saysPodman (version : String) : Bool := Text.contains (Text.lower version) "podman"

/-- Find the program that reaches containers. -/
def detect (m : Machine) : Except Exec.Error Engine × Machine :=
  match version? "docker" m with
  | (.error e, m) => (.error e, m)
  | (.ok (some v), m) => (.ok ⟨"docker", saysPodman v⟩, m)
  | (.ok none, m) =>
    match version? "podman" m with
    | (.error e, m) => (.error e, m)
    | (.ok (some _), m) => (.ok ⟨"podman", true⟩, m)
    | (.ok none, m) =>
      (.error (.executionFailed "neither `docker` nor `podman` was found in PATH"), m)

/-- The arguments that run a program in the container. -/
def runArgs (name : String) (argv : List String) : List String := "exec" :: name :: argv

/-- Run an invocation in the container. -/
def run (engine : Engine) (name : String) (i : Exec.Invocation) (m : Machine) :
    Reply (Except Exec.Error Exec.Output) Machine :=
  withProgram i m fun _ => process engine.program (runArgs name i.argv) i m

/-- What the container is called. -/
def summary (engine : Engine) (name : String) : String :=
  "container:" ++ name ++ " (via " ++ engine.program ++
    (if engine.podman then ", podman-compatible" else "") ++ ")"

def connection (engine : Engine) (name : String) : Connection :=
  { summary := summary engine name, executor := Exec.viaPrograms (run engine name) }

/-- Reach a container. -/
def connect (name : String) (m : Machine) : Except Exec.Error Connection × Machine :=
  if Text.isBlank name then (.error (.invalidArguments "container id/name cannot be empty"), m)
  else match detect m with
    | (.ok engine, m) => (.ok (connection engine name), m)
    | (.error e, m) => (.error e, m)

end PaneRunner.Target.Container
