/-
This file holds the events that the library reports while it works: what each says, how grave it is,
and which part of the library it comes from.
-/

import ShellSmoke.CommandLine.Options
import ShellSmoke.Duration
import ShellSmoke.Status
import ShellSmoke.Text.Quoted

namespace ShellSmoke.Log

/-- How grave an event is. -/
inductive Level where
  | error
  | warn
  | info
  | debug
  | trace
deriving DecidableEq, Repr, Inhabited

namespace Level

/-- All levels, the gravest first. -/
def all : List Level := [error, warn, info, debug, trace]

/-- The place of a level, which is higher for what matters less. -/
def rank : Level → Nat
  | error => 1
  | warn => 2
  | info => 3
  | debug => 4
  | trace => 5

/-- The name of a level. -/
def name : Level → String
  | error => "ERROR"
  | warn => "WARN"
  | info => "INFO"
  | debug => "DEBUG"
  | trace => "TRACE"

end Level

/-- A part of the library that reports events. -/
inductive Source where
  /-- The harness, which judges runs. -/
  | harness
  /-- The exchange with the target. -/
  | exchange
deriving DecidableEq, Repr, Inhabited

/-- The name by which log filters know a part of the library. -/
def Source.name : Source → String
  | harness => "mc_checker::harness"
  | exchange => "mc_checker::exec::run"

/-- Something that happened. -/
inductive Event where
  /-- The grading options of a command line were taken note of. -/
  | optionsAccepted (results : Option Bytes) (withoutChecks : Bool) (max : MaxScore)
  /-- The target runs. -/
  | spawned (process : Nat)
  /-- The target left its input unread. -/
  | inputAbandoned
  /-- The input of the target was closed, after a script of so many bytes. -/
  | inputClosed (bytes : Nat)
  /-- The target exited before the deadline, after so many bytes of output. -/
  | exited (exitCode : Int) (outputBytes : Nat)
  /-- The deadline passed first. -/
  | timedOut (timeout : Duration)
  /-- The target is gone for certain. -/
  | killed (status : ExitStatus)
  /-- The run has a verdict. -/
  | runFinished (passed : Bool)
deriving DecidableEq, Repr, Inhabited

namespace Event

/-- How grave an event is. -/
def level : Event → Level
  | optionsAccepted _ _ _ => .debug
  | spawned _ => .debug
  | inputAbandoned => .debug
  | inputClosed _ => .debug
  | exited _ _ => .debug
  | timedOut _ => .warn
  | killed _ => .debug
  | runFinished _ => .info

/-- The part of the library that an event comes from. -/
def source : Event → Source
  | optionsAccepted _ _ _ => .harness
  | spawned _ => .exchange
  | inputAbandoned => .exchange
  | inputClosed _ => .exchange
  | exited _ _ => .exchange
  | timedOut _ => .exchange
  | killed _ => .exchange
  | runFinished _ => .harness

/-- What an event says. -/
def message : Event → String
  | optionsAccepted _ _ _ => "grading options accepted"
  | spawned _ => "target spawned"
  | inputAbandoned => "target closed stdin early"
  | inputClosed _ => "stdin closed"
  | exited _ _ => "target exited"
  | timedOut _ => "target timed out"
  | killed _ => "target killed"
  | runFinished _ => "run finished"

/-- The text of a path that may be missing. -/
def pathText : Option Bytes → String
  | none => "None"
  | some path => "Some(" ++ Text.quote path ++ ")"

/-- The details of an event, by name. -/
def fields : Event → List (String × String)
  | optionsAccepted results withoutChecks max =>
    [("results", pathText results), ("without_checks", toString withoutChecks),
      ("max", max.text)]
  | spawned process => [("pid", toString process)]
  | inputAbandoned => []
  | inputClosed bytes => [("bytes", toString bytes)]
  | exited exitCode outputBytes =>
    [("exit_code", toString exitCode), ("output_bytes", toString outputBytes)]
  | timedOut timeout => [("timeout", timeout.text)]
  | killed status => [("status", status.text)]
  | runFinished passed => [("passed", toString passed)]

end Event

/-- What is known of an event apart from the values of its details: how grave it is, where it comes
from, and what its details are called. -/
structure Metadata where
  level : Level
  source : Source
  fields : List String
deriving DecidableEq, Repr, Inhabited

/-- What is known of an event apart from the values of its details. What it says counts as one. -/
def Event.metadata (event : Event) : Metadata :=
  ⟨event.level, event.source, "message" :: event.fields.map Prod.fst⟩

/-! ### Spans -/

/-- The run of a harness, inside which events can happen. -/
structure Span where
  executable : Bytes
  cases : Nat
  lines : Nat
deriving DecidableEq, Repr, Inhabited

namespace Span

/-- The name of a span. -/
def name : String := "harness.run"

/-- How grave a span is. -/
def level : Level := .info

/-- The part of the library that opens spans. -/
def source : Source := .harness

/-- The details of a span, by name. -/
def fields (span : Span) : List (String × String) :=
  [("executable", Text.decode span.executable), ("cases", toString span.cases),
    ("lines", toString span.lines)]

end Span

/-- An event with the span it happened in. -/
structure Record where
  span : Option Span
  event : Event
deriving DecidableEq, Repr, Inhabited

end ShellSmoke.Log
