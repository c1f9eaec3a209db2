import PaneRunner.Build.Stamp
import PaneRunner.Cli.Args
import PaneRunner.Cli.Report

/-
  What is printed instead of a command's report: help, the version, or what is wrong with the
  command line.
-/
namespace PaneRunner.Cli

/-- How to call the program. -/
def usage : String := Text.unlines [
  "Usage: tmuxdrive [OPTIONS] COMMAND",
  "",
  "Commands:",
  "  sessions                                list the sessions",
  "  windows SESSION                         list the windows of a session",
  "  create SESSION [WINDOW]                 make a session or a window",
  "  delete SESSION [WINDOW]                 remove a session or a window",
  "  recreate SESSION [WINDOW]               remove it, then make it",
  "  show SESSION WINDOW [--lines N]         print what a window shows",
  "  send-keys SESSION WINDOW TOKEN...       type into a window",
  "  wait-for SESSION WINDOW REGEX [--timeout TIME]",
  "                                          wait until a window shows a match",
  "  run SESSION WINDOW [--json] [--allow-all-exit-codes] -- COMMAND...",
  "                                          run a command in a window",
  "",
  "Options:",
  "  -c, --config FILE      the configuration file",
  "      --ssh HOST         drive the multiplexer of a remote host",
  "      --container NAME   drive the multiplexer in a container",
  "      --tmux-bin PATH    the multiplexer's program",
  "  -h, --help             print this text",
  "  -V, --version          print the version"]

/-- What is wrong with a command line. -/
def Refusal.text : Refusal → String
  | .help => "help was asked for"
  | .version => "the version was asked for"
  | .nothing | .noCommand => "there is no command"
  | .unknownCommand => "there is no command of this name"
  | .unknownArgument => "an argument was not expected"
  | .missingArgument => "an argument is missing"
  | .conflict => "an option was given twice, or excludes another"
  | .noValue => "an option has no value"
  | .extraValue => "an option takes no value"
  | .badValue => "the value of an option is not valid"

/-- The report of a refusal. -/
def Refusal.report (r : Refusal) : Report :=
  match r with
  | .help => .text (usage ++ "\n" ++ Build.stamp.help ++ "\n")
  | .version => .text ("tmuxdrive " ++ Build.stamp.long ++ "\n")
  | .nothing => { stderr := usage, code := .ofNat r.exitCode }
  | _ => { stderr := Report.errorLine r.text ++ "\n" ++ usage, code := .ofNat r.exitCode }

end PaneRunner.Cli
