/-
This file says what is known of the checks that the modelled system carries out, whichever programs
run in it. A check whose job is kept from starting prints a complaint and leaves the system as it
was. The run of any other check is an execution under a deadline that returns, so that all that holds
of such executions holds of it: it has an outcome, it times out exactly if it runs late, its log
tells what happened, and its output is what the processes wrote. One check can follow another.
-/

import ShellSmoke.Proofs.Invocation
import ShellSmoke.Proofs.Log
import ShellSmoke.Proofs.Machine.Run

namespace ShellSmoke

open Machine (World)

/-! ### Jobs -/

namespace Machine.World

variable {world : World}

/-- Nothing runs in a fresh system. -/
theorem isNumbered_fresh (tools : List Tool) (placed : List PlacedFile) :
    (World.fresh tools placed).IsNumbered :=
  ⟨List.nodup_nil, nofun⟩

/-- After a job processes are still told apart by their numbers. -/
theorem isNumbered_run (numbered : world.IsNumbered) (job : Job) :
    (run job world).2.IsNumbered := by
  cases spawns : world.spawn job with
  | error hindrance =>
    rw [run_of_hindered spawns]
    exact numbered
  | ok spawned =>
    obtain ⟨_, _, _, _, _, _, _, _, _, _, returns, _⟩ := run_isWatched numbered spawns
    exact returns.numbered

/-- A job that starts comes to an outcome, for a failure of the exchange does not happen in the
modelled system. It times out exactly if the harness comes to a look at which the time is up and the
exchange is not complete. -/
theorem run_outcome {job : Job} {spawned : World} (numbered : world.IsNumbered)
    (spawns : world.spawn job = .ok spawned) :
    ∃ opening opened schedule outcome,
      (Exchange.start job.executable job.script job.timeout Channel.usualCapacity
        Channel.usualCapacity).play? opening = some opened ∧
      opened.phase = .exchanging ∧ (run job world).1.result = .ok outcome ∧
      (outcome = .timedOut ↔ Exchange.RunsLate opened schedule) := by
  obtain ⟨opening, opened, schedule, decided, _, opens, exchanging, watched, found, _⟩ :=
    run_isWatched numbered spawns
  have pending : opened.IsPending := by
    refine ⟨exchanging, Exchange.reapedLast_play opens ?_⟩
    rw [exchanging]
    trivial
  have watches := Exchange.watched_of_watch? pending watched
  obtain ⟨_, outcome, same⟩ := Exchange.decided_of_watched watches found
  refine ⟨opening, opened, schedule, outcome, opens, exchanging, same, ?_⟩
  rw [← Exchange.timedOut_iff_runsLate watches, found, same]
  exact ⟨fun late => late ▸ rfl, fun late => Except.ok.inj (Option.some.inj late)⟩

end Machine.World

/-! ### Checks -/

namespace Harness

variable {harness : Harness} {world spawned : World}

/-- The log of a job that starts tells what happened, and the verdict is that on its outcome. -/
theorem run_tells (numbered : world.IsNumbered) (spawns : world.spawn harness.job = .ok spawned) :
    ∃ outcome actions process fed ended status,
      (harness.opened Channel.usualCapacity Channel.usualCapacity).play? actions =
        some (World.run harness.job world).2.exchange ∧
      (harness.run World.run world).1 = .ok (.ofOutcome outcome) ∧
      (harness.run World.run world).2.1 =
        (.spawned process :: (fed ++ (ended ++ .killed status ::
          [.runFinished (Verdict.ofOutcome outcome).passed]))).map
            (fun event => ⟨some harness.span, event⟩) ∧
      harness.Tells actions (World.run harness.job world).2.exchange (.ok outcome) fed ended status
        [.runFinished (Verdict.ofOutcome outcome).passed] := by
  obtain ⟨_, _, _, outcome, _, _, same, _⟩ := World.run_outcome numbered spawns
  obtain ⟨_, _, _, _, _, _, _, _, _, _, returns, log⟩ := World.run_isWatched numbered spawns
  obtain ⟨actions, played⟩ := World.reaches_run numbered spawns
  have returned : (World.run harness.job world).2.exchange.phase = .returned (.ok outcome) :=
    same ▸ returns.phase
  obtain ⟨process, fed, ended, status, told, tells⟩ := tells_of_returned played returned nofun
  refine ⟨outcome, actions, process, fed, ended, status, played, ?_, ?_, tells⟩
  · show judge (World.run harness.job world).1.result = _
    rw [same]
    rfl
  · show harness.records (World.run harness.job world).1 = _
    unfold records
    rw [same, log, told]
    dsimp only [judge]
    rw [List.cons_append, List.append_assoc, List.append_assoc, List.singleton_append]

/-- A check whose job is kept from starting prints nothing, has nothing to tell and changes
nothing. -/
theorem check_of_hindered {hindrance : Hindrance}
    (hindered : world.spawn harness.job = .error hindrance) (sink : Sink) :
    harness.check World.run sink world =
      ((.error (.ofRunError (hindrance.failure harness.job)), sink), [], world) := by
  unfold check
  rw [World.run_of_hindered hindered]
  rfl

/-- One check can follow another: after any number of them processes are told apart by their
numbers, as they are at first. -/
theorem isNumbered_checkTimes (numbered : world.IsNumbered) (times : Nat) (sink : Sink) :
    (harness.checkTimes World.run times sink world).2.2.IsNumbered := by
  induction times generalizing sink world with
  | zero => exact numbered
  | succ times inductionHypothesis =>
    exact inductionHypothesis (World.isNumbered_run numbered harness.job) _

end Harness

/-! ### Calls -/

namespace Invocation.Call

/-- A call of which the job is kept from starting says so, and exits with status 1. -/
theorem report_of_hindered {call : Call} (library : Log.Library) {options : CommandLine.Options}
    {world : World} {hindrance : Hindrance} (sink : Sink) (checks : call.Checks options)
    (hindered : world.spawn (call.job options) = .error hindrance) :
    (call.run library World.run sink world).1 =
      ⟨sink.accepted, call.log library World.run world ++ Bytes.ofString
        ("error: " ++ (hindrance.failure (call.job options)).message ++ "\n"), 1⟩ := by
  refine report_of_broken library World.run sink world checks ?_
  rw [result, World.run_of_hindered hindered]
  rfl

/-- Without descriptors for the pipe a call fails to set up the pipe, whatever it is to check. -/
theorem report_of_room {call : Call} (library : Log.Library) {options : CommandLine.Options}
    {world : World} {room : Nat} (sink : Sink) (checks : call.Checks options)
    (bounded : world.room = some room) (short : room < 3) :
    (call.run library World.run sink world).1 =
      ⟨sink.accepted, call.log library World.run world ++ Bytes.ofString
        "error: failed to set up output pipe: Too many open files (os error 24)\n", 1⟩ := by
  have broken : call.result World.run world options =
      .error (.outputPipe (.system .tooManyFiles)) := by
    rw [result, World.run_of_room bounded short]
  have text : "error: " ++ (RunError.outputPipe (.system .tooManyFiles)).message ++ "\n" =
      "error: failed to set up output pipe: Too many open files (os error 24)\n" := by
    decide +kernel
  rw [report_of_broken library World.run sink world checks broken, text]

end Invocation.Call

end ShellSmoke
