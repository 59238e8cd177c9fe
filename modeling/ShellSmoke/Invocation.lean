/-
This file models an invocation of the program: what its command line and its environment make it do,
what it writes, and with which status it exits.
-/

import ShellSmoke.CommandLine.Messages
import ShellSmoke.CommandLine.Reading
import ShellSmoke.Harness
import ShellSmoke.Log.Journal

namespace ShellSmoke.Invocation

/-! ### Plans -/

/-- What the program is to do. -/
inductive Plan where
  /-- To print a message about the command line. -/
  | explain (stop : CommandLine.Stop)
  /-- To print the script instead of sending it. -/
  | showScript (options : CommandLine.Options) (harness : Harness)
  /-- To check the target. -/
  | check (options : CommandLine.Options) (harness : Harness)
deriving DecidableEq, Repr, Inhabited

/-- What a command line asks for. -/
def plan (words : List Bytes) (environment : Environment) : Plan :=
  match CommandLine.read words with
  | .error stop => .explain stop
  | .ok options =>
    let harness := Harness.ofOptions options (Settings.timeout environment)
    if options.dryRun then .showScript options harness else .check options harness

/-! ### Reports -/

/-- What the program leaves behind: the bytes on its two streams, and its exit status. -/
structure Report where
  output : Bytes
  errors : Bytes
  status : Int
deriving DecidableEq, Repr, Inhabited

/-- The exit status as the parent of the program sees it, which is one byte. -/
def Report.seenStatus (report : Report) : Nat := (report.status % 256).toNat

/-- The report on a result. The message of an error goes to the stream for errors, unless it was
printed as the transcript already. -/
def conclude (result : Except ExitError Unit) (sink : Sink) (log : List String) : Report :=
  match result with
  | .ok () => ⟨sink.accepted, Bytes.ofString (String.join log), 0⟩
  | .error failure =>
    let message := if failure.code = ExitError.failedCheckCode then []
      else [failure.message ++ "\n"]
    ⟨sink.accepted, Bytes.ofString (String.join (log ++ message)), failure.code⟩

/-- The bytes of a message, on streams that are no terminals. -/
def messageBytes (environment : Environment) (message : Message) : Bytes :=
  message.onStream (Theme.choose (Settings.colorize environment false))
    (Settings.keepsSequences environment false)

/-- Carries a plan out. The program is known by a name, its messages become bytes, its log has
something to say before anything else happens, and its output goes to a stream. -/
def carryOut {World : Type} (runner : Runner World) (name : String) (bytes : Message → Bytes)
    (journal : Log.Journal) (sink : Sink) (world : World) : Plan → Report × World
  | .explain stop =>
    let message := bytes (stop.message name)
    let remarks := Bytes.ofString journal.remarks
    let report : Report := if stop.onErrorStream then ⟨[], remarks ++ message, stop.exitCode⟩
      else ⟨message, remarks, stop.exitCode⟩
    (report, world)
  | .showScript options harness =>
    let (result, sink) := sink.writeTranscript harness.script.render
    (conclude result sink (journal.pages [Harness.optionsRecord options]), world)
  | .check options harness =>
    let ((result, sink), records, world) := harness.check runner sink world
    (conclude result sink (journal.pages (Harness.optionsRecord options :: records)), world)

/-- Runs the program with the path it was called by, the words of its command line, its environment,
and a stream for its output. The library keeps its log. -/
def run {World : Type} (library : Log.Library) (runner : Runner World) (called : Bytes)
    (words : List Bytes) (environment : Environment) (stamp : String) (sink : Sink)
    (world : World) : Report × World :=
  carryOut runner (CommandLine.calledName called) (messageBytes environment)
    (library.begin environment stamp) sink world (plan words environment)

end ShellSmoke.Invocation
