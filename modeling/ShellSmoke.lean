import ShellSmoke.Bytes
import ShellSmoke.Text.Lossy
import ShellSmoke.Text.Division
import ShellSmoke.Terminal
import ShellSmoke.Fraction
import ShellSmoke.Decimal
import ShellSmoke.Errno
import ShellSmoke.Failure
import ShellSmoke.Status
import ShellSmoke.Suite
import ShellSmoke.Script
import ShellSmoke.Script.LogicalLines
import ShellSmoke.Script.Recovery
import ShellSmoke.Verdict
import ShellSmoke.Sink
import ShellSmoke.Duration
import ShellSmoke.Settings
import ShellSmoke.Style
import ShellSmoke.Text.Similarity
import ShellSmoke.CommandLine.Options
import ShellSmoke.CommandLine.Grammar
import ShellSmoke.CommandLine.Refusal
import ShellSmoke.CommandLine.Reading
import ShellSmoke.CommandLine.Messages
import ShellSmoke.Text.Printed
import ShellSmoke.Text.Quoted
import ShellSmoke.Log.Event
import ShellSmoke.Log.Filter
import ShellSmoke.Log.Journal
import ShellSmoke.Log.Plain
import ShellSmoke.Exchange.Channel
import ShellSmoke.Exchange
import ShellSmoke.Exchange.Poll
import ShellSmoke.Exchange.Target
import ShellSmoke.Exchange.Schedule
import ShellSmoke.Machine.Program
import ShellSmoke.Machine.Files
import ShellSmoke.Machine.World
import ShellSmoke.Machine.Kernel
import ShellSmoke.Run
import ShellSmoke.Machine.Boot
import ShellSmoke.Machine.Run
import ShellSmoke.Tools.Amount
import ShellSmoke.Tools.Basic
import ShellSmoke.Tools.Copying
import ShellSmoke.Tools.Counting
import ShellSmoke.Tools.Excerpt
import ShellSmoke.Tools.Following
import ShellSmoke.Tools.Inked
import ShellSmoke.Tools.Layout
import ShellSmoke.Tools.Listing
import ShellSmoke.Tools.ListingStyle
import ShellSmoke.Tools.Options
import ShellSmoke.Tools.Palette
import ShellSmoke.Tools.Quoting
import ShellSmoke.Tools.Removing
import ShellSmoke.Tools.SizeUnit
import ShellSmoke.Tools.Sleeping
import ShellSmoke.Tools.VersionOrder
import ShellSmoke.Tools.Words
import ShellSmoke.Harness
import ShellSmoke.Invocation
import ShellSmoke.Tools
import ShellSmoke.Shell.Octets
import ShellSmoke.Shell.Options
import ShellSmoke.Shell.Command
import ShellSmoke.Shell.Cursor
import ShellSmoke.Shell.Words
import ShellSmoke.Shell.Grammar
import ShellSmoke.Shell.Pattern
import ShellSmoke.Shell.Arithmetic
import ShellSmoke.Shell.Job
import ShellSmoke.Shell.Session
import ShellSmoke.Shell.Children
import ShellSmoke.Shell.Expansion
import ShellSmoke.Shell.Printing
import ShellSmoke.Shell.Condition
import ShellSmoke.Shell.Redirecting
import ShellSmoke.Shell.Scripts
import ShellSmoke.Shell.Builtin
import ShellSmoke.Shell.Builtins.Aliases
import ShellSmoke.Shell.Builtins.Control
import ShellSmoke.Shell.Builtins.Directories
import ShellSmoke.Shell.Builtins.Limits
import ShellSmoke.Shell.Builtins.Printing
import ShellSmoke.Shell.Builtins.Processes
import ShellSmoke.Shell.Builtins.Variables
import ShellSmoke.Shell.Builtins
import ShellSmoke.Shell.Lookup
import ShellSmoke.Shell.Interpreter
import ShellSmoke.Shell.Startup
import ShellSmoke.Main
import ShellSmoke.Proofs.Exchange.Steps
import ShellSmoke.Proofs.Exchange.Conservation
import ShellSmoke.Proofs.Exchange.Turns
import ShellSmoke.Proofs.Exchange.Progress
import ShellSmoke.Proofs.Exchange.Termination
import ShellSmoke.Proofs.Exchange.Deadline
import ShellSmoke.Proofs.Machine.Processes
import ShellSmoke.Proofs.Machine.Deeds
import ShellSmoke.Proofs.Machine.Run
import ShellSmoke.Proofs.Sink
import ShellSmoke.Proofs.Harness
import ShellSmoke.Exchange.Solo
import ShellSmoke.Exchange.Copying
import ShellSmoke.Proofs.Exchange.Integrity
import ShellSmoke.Proofs.Exchange.Agreement
import ShellSmoke.Proofs.Cleanup
import ShellSmoke.Proofs.Log
import ShellSmoke.Proofs.Text
import ShellSmoke.Proofs.Script
import ShellSmoke.Proofs.Invocation
import ShellSmoke.Proofs.Machine.Checks
import ShellSmoke.Proofs.Exchange.Copying
import ShellSmoke.Proofs.CommandLine.Words
import ShellSmoke.Proofs.CommandLine.Lines
import ShellSmoke.Proofs.CommandLine.Options
import ShellSmoke.Proofs.CommandLine.Insertion
import ShellSmoke.Proofs.Inertness
import ShellSmoke.Proofs.Exchange.Unread
import ShellSmoke.Proofs.Transcripts
import ShellSmoke.Proofs.Script.LogicalLines
import ShellSmoke.Proofs.Script.Recovery
import ShellSmoke.Proofs.Script.Scanning
import ShellSmoke.Proofs.Settings
import ShellSmoke.Proofs.CommandLine.Finality
import ShellSmoke.Proofs.Output
import ShellSmoke.Proofs.Machine.Programs
import ShellSmoke.Proofs.Tools.Basic
import ShellSmoke.Proofs.Tools.Copying
import ShellSmoke.Proofs.Tools.Counting
import ShellSmoke.Proofs.Tools.Excerpt
import ShellSmoke.Proofs.Shell.Arithmetic
import ShellSmoke.Proofs.Shell.Pattern
import ShellSmoke.Proofs.Tools.Options
import ShellSmoke.Proofs.Shell.Commands
import ShellSmoke.Proofs.Shell.Expansion
import ShellSmoke.Proofs.Shell.Labels
