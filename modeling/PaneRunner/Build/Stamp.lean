import PaneRunner.Build.Calendar
import PaneRunner.Machine.Basic

/-
  The commit and the time of a build. Both can be set from the environment; otherwise `git`
  describes the commit, and the time is pinned by the environment or that of the clock.
-/
namespace PaneRunner.Build

/-- What is known of a build. -/
structure Stamp where
  version : String
  commit : String
  time : String
  deriving DecidableEq, Repr

namespace Stamp

/-- The text for a request of the version. -/
def long (s : Stamp) : String :=
  s.version ++ "\ncommit: " ++ s.commit ++ "\nbuilt: " ++ s.time

/-- The text below the help. -/
def help (s : Stamp) : String :=
  "Build metadata:\n  commit: " ++ s.commit ++ "\n  built: " ++ s.time

end Stamp

/-- This build. -/
def stamp : Stamp := { version := "0.1.0", commit := "oracle", time := "2024-01-01T00:00:00Z" }

/-- The variables that decide about a stamp. -/
def commitVariable : String := "TMUXDRIVE_BUILD_GIT_HASH"

def timeVariable : String := "TMUXDRIVE_BUILD_TIMESTAMP"

def epochVariable : String := "SOURCE_DATE_EPOCH"

/-- The reference that the head of a repository follows. -/
def headReference (m : Machine) : Option String :=
  match m.readText ".git/HEAD" with
  | .ok head => Text.stripStart? (Text.trim head) "ref: "
  | .error _ => none

/-- The arguments that describe the commit. -/
def describeArgs : List String := ["describe", "--always", "--dirty=-dirty", "--abbrev=12"]

/-- The commit as `git` describes it. -/
def describe (m : Machine) : String × Machine :=
  match m.spawn "git" describeArgs with
  | (.ok run, m) =>
    let text := Text.trim (Text.Utf8.decode run.stdout)
    if run.code = some 0 ∧ text ≠ "" then (text, m) else ("unknown", m)
  | (.error _, m) => ("unknown", m)

/-- The seconds since 1970 that count as the time of the build. -/
def epoch (m : Machine) : Nat :=
  let pinned := (m.var? epochVariable).bind fun raw =>
    Text.Decimal.unsigned? (1 <<< 64) (Text.trim raw).toList
  pinned.getD m.clock

/-- The commit and the time of a build on a machine. -/
def describeBuild (m : Machine) : (String × String) × Machine :=
  let (commit, m) := match m.var? commitVariable with
    | some commit => (commit, m)
    | none => describe m
  ((commit, (m.var? timeVariable).getD (timestamp (epoch m))), m)

/-- What the build tool is told: when to build again, and the commit and the time. -/
def directives (m : Machine) : List String × Machine :=
  let watched := [commitVariable, timeVariable, epochVariable].map fun v =>
    "cargo:rerun-if-env-changed=" ++ v
  let head := "cargo:rerun-if-changed=.git/HEAD" ::
    ((headReference m).map fun r => "cargo:rerun-if-changed=.git/" ++ r).toList
  let ((commit, time), m) := describeBuild m
  (watched ++ head ++
    ["cargo:rustc-env=" ++ commitVariable ++ "=" ++ commit,
      "cargo:rustc-env=" ++ timeVariable ++ "=" ++ time], m)

end PaneRunner.Build
