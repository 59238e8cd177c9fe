/-
This file models the harness: it composes the script of a suite, has it run by the target, judges
the result and prints the transcript. Each of these is a function of its own, so that what the
harness makes of a run does not depend on who carried the run out.
-/

import ShellSmoke.Run
import ShellSmoke.Script
import ShellSmoke.Script.LogicalLines
import ShellSmoke.Sink

namespace ShellSmoke

/-- One smoke test of a target shell. -/
structure Harness where
  executable : Bytes
  suite : Suite
  timeout : Duration
deriving DecidableEq, Repr, Inhabited

namespace Harness

/-- The harness that a command line asks for: it runs the built-in suite, and of the options only
the executable matters to it. -/
def ofOptions (options : CommandLine.Options) (timeout : Duration) : Harness :=
  ⟨options.executable, .smoke, timeout⟩

/-- The event that takes note of the options that do not matter. -/
def optionsRecord (options : CommandLine.Options) : Log.Record :=
  ⟨none, .optionsAccepted options.results options.withoutChecks options.max⟩

/-- The script of a harness. -/
def script (harness : Harness) : Script := .compose harness.suite

/-- The job of a harness. -/
def job (harness : Harness) : Job :=
  ⟨harness.executable, Bytes.ofString harness.script.render, harness.timeout⟩

/-- The span in which a harness runs its job. -/
def span (harness : Harness) : Log.Span :=
  ⟨harness.executable, harness.suite.size, Script.logicalLineCount harness.script.render⟩

/-! ### What a harness makes of a run -/

/-- The verdict on a result; a run that failed has none. -/
def judge (result : Except RunError Outcome) : Except RunError Verdict :=
  match result with
  | .ok outcome => .ok (.ofOutcome outcome)
  | .error failure => .error failure

/-- What a harness reports of a run: the events of the run inside the span and, if there is a
verdict, whether it is a pass. -/
def records (harness : Harness) (run : Run) : List Log.Record :=
  let finished := match judge run.result with
    | .ok verdict => [Log.Event.runFinished verdict.passed]
    | .error _ => []
  (run.events ++ finished).map fun event => ⟨some harness.span, event⟩

/-- Prints the transcript of a result. A run that failed prints nothing, a stream that fails
outranks the verdict, and else the verdict decides. -/
def present (result : Except RunError Outcome) (sink : Sink) : Except ExitError Unit × Sink :=
  match judge result with
  | .error failure => (.error (.ofRunError failure), sink)
  | .ok verdict =>
    match sink.writeTranscript verdict.transcript with
    | (.error failure, sink) => (.error failure, sink)
    | (.ok (), sink) => (verdict.result, sink)

/-! ### Running -/

/-- Runs the script and judges the result. -/
def run {World : Type} (runner : Runner World) (harness : Harness) (world : World) :
    Except RunError Verdict × List Log.Record × World :=
  let (run, world) := runner harness.job world
  (judge run.result, harness.records run, world)

/-- Runs the script, judges the result and prints the transcript. -/
def check {World : Type} (runner : Runner World) (harness : Harness) (sink : Sink)
    (world : World) : (Except ExitError Unit × Sink) × List Log.Record × World :=
  let (run, world) := runner harness.job world
  (present run.result sink, harness.records run, world)

/-- Checks so many times, on one stream and in one world; the value holds what each check came
to, in order. -/
def checkTimes {World : Type} (runner : Runner World) (harness : Harness) :
    (times : Nat) → Sink → World →
      List (Except ExitError Unit × Sink) × List Log.Record × World
  | 0, _, world => ([], [], world)
  | times + 1, sink, world =>
    let (step, records, world) := harness.check runner sink world
    let (steps, later, world) := harness.checkTimes runner times step.2 world
    (step :: steps, records ++ later, world)

end Harness

end ShellSmoke
