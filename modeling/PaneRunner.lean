import PaneRunner.Main
import PaneRunner.Simulation.Script
import PaneRunner.Proofs.Config.Valid
import PaneRunner.Proofs.Server.Refusals
import PaneRunner.Proofs.Capture.Cut
import PaneRunner.Proofs.Capture.Lines
import PaneRunner.Proofs.Capture.RoundTrip
import PaneRunner.Proofs.Capture.Transcript
import PaneRunner.Proofs.Plan.Actions
import PaneRunner.Proofs.Plan.Ends
import PaneRunner.Proofs.Run.Again
import PaneRunner.Proofs.Run.Command
import PaneRunner.Proofs.Run.Flush
import PaneRunner.Proofs.Run.Once
import PaneRunner.Proofs.Run.Outcome
import PaneRunner.Proofs.Run.Screen
import PaneRunner.Proofs.Run.Steps
import PaneRunner.Proofs.Run.TypedLine
import PaneRunner.Proofs.Server.Creation
import PaneRunner.Proofs.Server.Listing
import PaneRunner.Proofs.Server.Reachable
import PaneRunner.Proofs.Server.Requests
import PaneRunner.Proofs.Server.Scene
import PaneRunner.Proofs.Server.Windows
import PaneRunner.Proofs.Shell.Quoting
import PaneRunner.Proofs.Text.Numerals
import PaneRunner.Proofs.Text.Pieces
import PaneRunner.Proofs.Text.Search
import PaneRunner.Proofs.Text.Utf8
import PaneRunner.Proofs.Run.Echo
import PaneRunner.Proofs.Shell.Joining
import PaneRunner.Proofs.Trace.Actions
import PaneRunner.Proofs.Trace.Window
import PaneRunner.Proofs.Trace.Cleanup
import PaneRunner.Proofs.Trace.Typing
import PaneRunner.Proofs.Plan.Stepwise
import PaneRunner.Proofs.Plan.Interleaving
import PaneRunner.Proofs.Lifecycle.Procedures
import PaneRunner.Proofs.Lifecycle.Directory
import PaneRunner.Proofs.Lifecycle.Refinement
import PaneRunner.Proofs.Lifecycle.Names
import PaneRunner.Proofs.Lifecycle.Creation
import PaneRunner.Proofs.Lifecycle.Races
import PaneRunner.Proofs.Parallel.Files
import PaneRunner.Proofs.Parallel.Stages
import PaneRunner.Proofs.Parallel.Steps
import PaneRunner.Proofs.Parallel.Apart
import PaneRunner.Proofs.Config.Precedence
import PaneRunner.Proofs.Config.Prompts
import PaneRunner.Proofs.Trace.Calls
import PaneRunner.Proofs.Capture.Verdicts
import PaneRunner.Proofs.Run.MarkerCommand
import PaneRunner.Proofs.Trace.Polling
import PaneRunner.Proofs.Run.Keystrokes
import PaneRunner.Proofs.Shell.Commands
import PaneRunner.Proofs.Shell.Scripts
import PaneRunner.Proofs.Trace.Results
import PaneRunner.Proofs.Cli.Exits
import PaneRunner.Proofs.Cli.Shown
import PaneRunner.Proofs.Config.Variables
import PaneRunner.Proofs.Config.Sources
import PaneRunner.Proofs.Numbers.Words
import PaneRunner.Proofs.Build.Gregorian
import PaneRunner.Proofs.Build.Dates
import PaneRunner.Proofs.Build.Timestamps
import PaneRunner.Proofs.Duration.Reading
import PaneRunner.Proofs.Duration.Rendering
