/-
This file models the stream on which a transcript is written. Each call of the stream is answered
from a list of answers, which stands for whatever the stream may do; when the list is used up, every
call succeeds in full. Writing a text offers what is left of it until all is accepted.
-/

import ShellSmoke.Failure

namespace ShellSmoke

/-- The answer of a stream to an offer of bytes. -/
inductive WriteAnswer where
  /-- At most so many of the bytes are accepted. -/
  | accepts (limit : Nat)
  /-- All bytes are accepted. -/
  | acceptsAll
  | fails (failure : IoError)
deriving DecidableEq, Repr, Inhabited

/-- The answer of a stream to a flush. -/
inductive FlushAnswer where
  | succeeds
  | fails (failure : IoError)
deriving DecidableEq, Repr, Inhabited

/-- How an attempt to write went: its result, the bytes accepted, the calls made, and the answers
that are left. -/
structure Attempt where
  result : Except IoError Unit
  accepted : Bytes
  calls : Nat
  later : List WriteAnswer

/-- An attempt with one more call before it, which accepted the bytes given. -/
def Attempt.after (attempt : Attempt) (bytes : Bytes) : Attempt :=
  { attempt with accepted := bytes ++ attempt.accepted, calls := attempt.calls + 1 }

/-- Offers bytes until all are accepted, to a stream that gives these answers. A call that was
interrupted is repeated, any other failure ends the attempt, and so does a call that accepts
nothing. -/
def offerAll : List WriteAnswer → Bytes → Attempt
  | [], offered => ⟨.ok (), offered, if offered.isEmpty then 0 else 1, []⟩
  | answer :: later, offered =>
    if offered.isEmpty then ⟨.ok (), [], 0, answer :: later⟩
    else
      match answer with
      | .acceptsAll => ⟨.ok (), offered, 1, later⟩
      | .accepts limit =>
        if limit = 0 then ⟨.error .nothingAccepted, [], 1, later⟩
        else (offerAll later (offered.drop limit)).after (offered.take limit)
      | .fails failure =>
        if failure.kind = .interrupted then (offerAll later offered).after []
        else ⟨.error failure, [], 1, later⟩

/-- A stream: what it has accepted, how often it was called, and how it will answer. -/
structure Sink where
  accepted : Bytes := []
  writes : Nat := 0
  flushes : Nat := 0
  writeAnswers : List WriteAnswer := []
  flushAnswers : List FlushAnswer := []
deriving DecidableEq, Repr, Inhabited

namespace Sink

/-- Offers bytes until all are accepted. -/
def writeAll (sink : Sink) (offered : Bytes) : Except IoError Unit × Sink :=
  let attempt := offerAll sink.writeAnswers offered
  (attempt.result,
    { sink with
      accepted := sink.accepted ++ attempt.accepted
      writes := sink.writes + attempt.calls
      writeAnswers := attempt.later })

/-- Flushes once; a flush is not repeated, whatever it answers. -/
def flush (sink : Sink) : Except IoError Unit × Sink :=
  match sink.flushAnswers with
  | [] => (.ok (), { sink with flushes := sink.flushes + 1 })
  | answer :: later =>
    let called := { sink with flushes := sink.flushes + 1, flushAnswers := later }
    match answer with
    | .succeeds => (.ok (), called)
    | .fails failure => (.error failure, called)

/-- Writes a text in full and then flushes, so that it is seen before the program ends. -/
def writeTranscript (sink : Sink) (text : String) : Except ExitError Unit × Sink :=
  match sink.writeAll (Bytes.ofString text) with
  | (.error failure, sink) => (.error (.ofIoError failure), sink)
  | (.ok (), sink) =>
    match sink.flush with
    | (.error failure, sink) => (.error (.ofIoError failure), sink)
    | (.ok (), sink) => (.ok (), sink)

end Sink

end ShellSmoke
