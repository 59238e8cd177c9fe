/-
This file proves that an exchange keeps its books. Whatever the chunks, the capacities and the order
of the steps are, the bytes drained and the bytes still in the output pipe are together the bytes
that were written as output, in their order; the descriptors for writing output that are open are
the ones that were made and not closed; the part of the script that is still to be written is what
the accepted bytes leave of it; and the child is known to have ended as it ended. The main result
reads the books of a run that completed: its output decodes all that was ever written, and nobody
could have written more.
-/

import ShellSmoke.Exchange.Poll
import ShellSmoke.Proofs.Exchange.Steps

namespace ShellSmoke

/-! ### Parts of an exchange -/

theorem Drain.collected_read (drain : Drain) (chunk : Bytes) :
    ({ drain with chunks := chunk :: drain.chunks } : Drain).collected =
      drain.collected ++ chunk := by
  simp only [Drain.collected, List.reverse_cons, List.flatten_append, List.flatten_cons,
    List.flatten_nil, List.append_nil]

theorem Buffer.bytes_eq_nil {buffer : Buffer} (empty : buffer.isEmpty = true) :
    buffer.bytes = [] := by
  rw [Buffer.isEmpty, beq_iff_eq, buffer.size_eq] at empty
  exact List.length_eq_zero_iff.mp empty

theorem ExitStatus.code_eq_neg_one_iff (status : ExitStatus) :
    status.code = -1 ↔ ∃ signal, status = .signalled signal := by
  cases status with
  | exited code => simp [ExitStatus.code]
  | signalled signal => simp [ExitStatus.code]

namespace Exchange

variable {executable script : Bytes} {timeout : Duration} {inputCapacity outputCapacity : Nat}
variable {before after reached : Exchange} {action : Action} {actions : List Action}

/-! ### What a longer execution adds -/

theorem written_concat (earlier : List Action) (action : Action) :
    written (earlier ++ [action]) = written earlier ++ written [action] :=
  List.flatMap_append

theorem accepted_concat (earlier : List Action) (action : Action) :
    accepted (earlier ++ [action]) = accepted earlier + accepted [action] := by
  unfold accepted
  rw [List.foldl_append, List.foldl_cons, List.foldl_nil, List.foldl_cons, List.foldl_nil]
  split
  · rw [Nat.zero_add]
  · rfl

theorem exits_concat (earlier : List Action) (action : Action) :
    exits (earlier ++ [action]) = exits earlier ++ exits [action] :=
  List.filterMap_append

/-! ### Output -/

/-- A step of the harness takes nothing from the output and adds nothing to it. -/
theorem output_moves {move : Move} (moves : Moves before move after) :
    after.drain.collected ++ after.output.held.bytes =
      before.drain.collected ++ before.output.held.bytes := by
  cases moves with
  | read count =>
    show ({ before.drain with
        chunks := before.output.held.bytes.take count :: before.drain.chunks } : Drain).collected ++
      before.output.held.bytes.drop count = _
    rw [Drain.collected_read, List.append_assoc, List.take_append_drop]
  | _ => rfl

/-- A step on the other side adds to the output what it writes. -/
theorem output_does {deed : Deed} (does : Does before deed after) :
    after.drain.collected ++ after.output.held.bytes =
      before.drain.collected ++ before.output.held.bytes ++ written [.target deed] := by
  cases does with
  | write stream bytes =>
    show before.drain.collected ++ (before.output.held.bytes ++ bytes.bytes) = _
    rw [written, List.flatMap_cons, List.flatMap_nil, List.append_nil, List.append_assoc]
  | _ => exact (List.append_nil _).symm

/-- What was drained and what is still in the pipe is all that was written, in its order. -/
theorem collected_append_held
    (played : (start executable script timeout inputCapacity outputCapacity).play? actions =
      some reached) :
    reached.drain.collected ++ reached.output.held.bytes = written actions := by
  refine play?_induction (motive := fun actions reached =>
    reached.drain.collected ++ reached.output.held.bytes = written actions) rfl ?_ played
  intro earlier before action after kept acted
  rw [written_concat, ← kept]
  cases action with
  | harness move =>
    rw [output_moves (moves_of_move? acted)]
    exact (List.append_nil _).symm
  | target deed => exact output_does (deed?_eq_some_iff.mp acted)

/-! ### Descriptors for writing output -/

/-- The books on the descriptors for writing output: the harness's own are among those that are
open, and those that are open or closed by others are the harness's own, the two that the child
started with, and those that were made since. The harness has none of its own once it has announced
the child. -/
structure WritersKept (actions : List Action) (reached : Exchange) : Prop where
  own_le : reached.ownWriters ≤ reached.output.writers
  total : reached.output.writers + actions.count (.target .closeOutput) =
    reached.ownWriters + 2 + actions.count (.target .shareOutput)
  released : reached.phase = .spawned ∨ reached.ownWriters = 0

/-- A step of the harness gives up all its own descriptors for writing output or none, and the very
first gives them up. -/
theorem writers_moves {move : Move} (moves : Moves before move after) :
    (after.output.writers = before.output.writers ∧ after.ownWriters = before.ownWriters ∧
      before.phase ≠ .spawned) ∨
    (after.output.writers = before.output.writers - before.ownWriters ∧ after.ownWriters = 0) := by
  cases moves with
  | announce | openOutputFails | writeFails | readFails | reap | waitFails | expire | dropOpen =>
    exact .inr ⟨rfl, rfl⟩
  | openOutput phase | write _ _ phase | abandonInput _ phase | closeInput _ phase | read _ phase
  | readEnd phase | kill _ phase | bury _ _ phase | dropDecided _ phase | dropStopping _ phase =>
    refine .inl ⟨rfl, rfl, fun spawned => ?_⟩
    cases phase.symm.trans spawned

/-- A step on the other side keeps the books on the descriptors for writing output. -/
theorem writers_does {deed : Deed} (does : Does before deed after)
    (own_le : before.ownWriters ≤ before.output.writers) :
    after.ownWriters = before.ownWriters ∧ after.phase = before.phase ∧
      after.ownWriters ≤ after.output.writers ∧
      after.output.writers + [Action.target deed].count (.target .closeOutput) =
        before.output.writers + [Action.target deed].count (.target .shareOutput) := by
  cases does with
  | shareOutput hasWriter => exact ⟨rfl, rfl, Nat.le_succ_of_le own_le, rfl⟩
  | closeOutput hasWriter =>
    refine ⟨rfl, rfl, ?_, ?_⟩
    · show before.ownWriters ≤ before.output.writers - 1
      omega
    · show before.output.writers - 1 + 1 = before.output.writers + 0
      omega
  | read | write | shareInput | closeInput | exit =>
    refine ⟨rfl, rfl, own_le, ?_⟩
    simp [Channel.push]

theorem writersKept_play
    (played : (start executable script timeout inputCapacity outputCapacity).play? actions =
      some reached) :
    WritersKept actions reached := by
  refine play?_induction ⟨Nat.le_add_left 2 2, rfl, .inl rfl⟩ ?_ played
  intro earlier before action after kept acted
  obtain ⟨own_le, total, released⟩ := kept
  cases action with
  | harness move =>
    have noClose : (earlier ++ [Action.harness move]).count (.target .closeOutput) =
        earlier.count (.target .closeOutput) := by simp
    have noShare : (earlier ++ [Action.harness move]).count (.target .shareOutput) =
        earlier.count (.target .shareOutput) := by simp
    rcases writers_moves (moves_of_move? acted) with
      ⟨sameWriters, sameOwn, notSpawned⟩ | ⟨fewerWriters, noneOwn⟩
    · exact ⟨by omega, by omega, .inr (sameOwn.trans (released.resolve_left notSpawned))⟩
    · exact ⟨by omega, by omega, .inr noneOwn⟩
  | target deed =>
    obtain ⟨sameOwn, samePhase, stillLe, balance⟩ :=
      writers_does (deed?_eq_some_iff.mp acted) own_le
    refine ⟨stillLe, ?_, ?_⟩
    · rw [List.count_append, List.count_append]
      omega
    · rw [sameOwn, samePhase]
      exact released

/-! ### The end of the output -/

/-- Whether the output has come to its end if the harness has seen it: the pipe is empty, and no
descriptor can fill it any more. -/
def EndIsFinal (exchange : Exchange) : Prop :=
  exchange.drain.ended = true →
    exchange.output.held.bytes = [] ∧ exchange.output.writers = 0

theorem endIsFinal_act (kept : EndIsFinal before) (acted : before.act? action = some after) :
    EndIsFinal after := by
  intro ended
  cases action with
  | harness move =>
    cases moves_of_move? acted with
    | read count phase positive available notEnded =>
      exact absurd ended (ne_true_of_eq_false notEnded)
    | readEnd phase atEnd notEnded =>
      rw [Channel.atEnd, Bool.and_eq_true, beq_iff_eq] at atEnd
      exact ⟨Buffer.bytes_eq_nil atEnd.1, atEnd.2⟩
    | announce | openOutputFails | writeFails | readFails | reap | waitFails | expire | dropOpen =>
      obtain ⟨empty, closed⟩ := kept ended
      refine ⟨empty, ?_⟩
      show before.output.writers - before.ownWriters = 0
      rw [closed, Nat.zero_sub]
    | _ => exact kept ended
  | target deed =>
    cases deed?_eq_some_iff.mp acted with
    | write stream bytes positive fits hasWriter read =>
      have closed := (kept ended).2
      omega
    | shareOutput hasWriter =>
      have closed := (kept ended).2
      omega
    | closeOutput hasWriter =>
      have closed := (kept ended).2
      omega
    | _ => exact kept ended

theorem endIsFinal_play
    (played : (start executable script timeout inputCapacity outputCapacity).play? actions =
      some reached) :
    EndIsFinal reached := by
  refine play?_induction (motive := fun _ reached => EndIsFinal reached) ?_ ?_ played
  · intro ended
    cases ended
  · intro _ before action after kept acted
    exact endIsFinal_act kept acted

/-! ### The script -/

/-- The books on the script: what is still to be written is what the accepted bytes leave of it. If
the harness closed its end in good order then all of the script was accepted, else nobody can read
the rest any more. -/
def ScriptKept (script : Bytes) (accepted : Nat) (exchange : Exchange) : Prop :=
  match exchange.feed with
  | .writing rest => rest.bytes = script.drop accepted ∧ accepted ≤ script.length
  | .closed false => accepted = script.length
  | .closed true => accepted < script.length ∧ exchange.input.broken = true

theorem scriptKept_of_same {count : Nat} (kept : ScriptKept script count before)
    (feed : after.feed = before.feed)
    (broken : before.input.broken = true → after.input.broken = true) :
    ScriptKept script count after := by
  unfold ScriptKept at kept ⊢
  rw [feed]
  split at kept
  · exact kept
  · exact kept
  · exact ⟨kept.1, broken kept.2⟩

theorem broken_closeEnds (exchange : Exchange) :
    exchange.closeEnds.input.broken = exchange.input.broken := by
  unfold closeEnds
  dsimp only
  split
  · rfl
  · rfl

/-- A step of the harness keeps the books on the script. -/
theorem scriptKept_moves {move : Move} {count : Nat} (kept : ScriptKept script count before)
    (moves : Moves before move after) :
    ScriptKept script (count + accepted [.harness move]) after := by
  cases moves with
  | write more rest phase feed positive fits available read =>
    rw [ScriptKept, feed] at kept
    obtain ⟨left, within⟩ := kept
    have size : rest.size = script.length - count := by
      rw [rest.size_eq, left, List.length_drop]
    show rest.bytes.drop more = script.drop (count + (0 + more)) ∧
      count + (0 + more) ≤ script.length
    rw [left, List.drop_drop, Nat.zero_add]
    exact ⟨rfl, by omega⟩
  | abandonInput rest phase feed broken unfinished =>
    rw [ScriptKept, feed] at kept
    rw [Buffer.isEmpty, beq_eq_false_iff_ne, rest.size_eq, kept.1, List.length_drop] at unfinished
    show count + 0 < script.length ∧ before.input.broken = true
    exact ⟨by omega, broken⟩
  | closeInput rest phase feed finished =>
    rw [ScriptKept, feed] at kept
    rw [Buffer.isEmpty, beq_iff_eq, rest.size_eq, kept.1, List.length_drop] at finished
    show count + 0 = script.length
    omega
  | openOutputFails | writeFails | readFails | reap | waitFails | expire | dropOpen =>
    exact scriptKept_of_same kept rfl fun broken => (broken_closeEnds before).trans broken
  | _ => exact scriptKept_of_same kept rfl id

/-- A step on the other side keeps the books on the script: nobody gets a descriptor for reading it
from a process that has none. -/
theorem scriptKept_does {deed : Deed} {count : Nat} (kept : ScriptKept script count before)
    (does : Does before deed after) : ScriptKept script count after := by
  cases does with
  | shareInput hasReader =>
    refine scriptKept_of_same kept rfl fun broken => ?_
    exact absurd broken (ne_true_of_eq_false hasReader)
  | closeInput hasReader =>
    refine scriptKept_of_same kept rfl fun broken => ?_
    exact absurd broken (ne_true_of_eq_false hasReader)
  | _ => exact scriptKept_of_same kept rfl id

theorem scriptKept_play
    (played : (start executable script timeout inputCapacity outputCapacity).play? actions =
      some reached) :
    ScriptKept script (accepted actions) reached := by
  refine play?_induction (motive := fun actions reached =>
    ScriptKept script (accepted actions) reached) ?_ ?_ played
  · exact ⟨rfl, Nat.zero_le _⟩
  intro earlier before action after kept acted
  rw [accepted_concat]
  cases action with
  | harness move => exact scriptKept_moves kept (moves_of_move? acted)
  | target deed => exact scriptKept_does kept (deed?_eq_some_iff.mp acted)

/-! ### The child -/

/-- The books on the child: it ends once, and the harness learns of no other end. -/
def ChildKept (exits : List ExitStatus) (exchange : Exchange) : Prop :=
  match exchange.child with
  | .running => exits = []
  | .ended status | .reaped status => exits = [status]

/-- A step of the harness can only tell it how the child has ended. -/
theorem child_moves {move : Move} (moves : Moves before move after) :
    after.child = before.child ∨
      ∃ status, after.child = .reaped status ∧
        (before.child = .ended status ∨ before.child = .reaped status) := by
  cases moves with
  | reap early status phase feed ended child => exact .inr ⟨status, rfl, .inl child⟩
  | bury result status phase child => exact .inr ⟨status, rfl, child⟩
  | _ => exact .inl rfl

theorem childKept_play
    (played : (start executable script timeout inputCapacity outputCapacity).play? actions =
      some reached) :
    ChildKept (exits actions) reached := by
  refine play?_induction (motive := fun actions reached => ChildKept (exits actions) reached) ?_ ?_
    played
  · exact rfl
  intro earlier before action after kept acted
  rw [exits_concat]
  cases action with
  | harness move =>
    show ChildKept (exits earlier ++ []) after
    rw [List.append_nil]
    unfold ChildKept at kept ⊢
    rcases child_moves (moves_of_move? acted) with same | ⟨status, reaped, ended | ended⟩
    · rw [same]
      exact kept
    · rw [ended] at kept
      rw [reaped]
      exact kept
    · rw [ended] at kept
      rw [reaped]
      exact kept
  | target deed =>
    cases deed?_eq_some_iff.mp acted with
    | exit status child =>
      rw [ChildKept, child] at kept
      show exits earlier ++ [status] = [status]
      rw [kept, List.nil_append]
    | _ =>
      show ChildKept (exits earlier ++ []) before
      rw [List.append_nil]
      exact kept

/-! ### The result -/

/-- A run is completed in good order if the harness has closed its end of the script, has seen the
end of the output and has learned how the child ended, and if the result says no more and no
less. -/
structure Completes (exchange : Exchange) (output : String) (exitCode : Int) : Prop where
  fed : ∃ early, exchange.feed = .closed early
  drained : exchange.drain.ended = true
  decoded : output = Text.decode exchange.drain.collected
  reaped : ∃ status, exchange.child = .reaped status ∧ exitCode = status.code

/-- Whether a completed run is completed in good order. -/
def CompletionKept (exchange : Exchange) : Prop :=
  ∀ output exitCode, exchange.result? = some (.ok (.completed output exitCode)) →
    exchange.Completes output exitCode

theorem result?_of_isOpen {exchange : Exchange} (phase : exchange.phase.IsOpen) :
    exchange.result? = none := by
  unfold result?
  cases now : exchange.phase with
  | spawned | opening | exchanging | dropped => rfl
  | decided | stopping | returned =>
    rw [now] at phase
    cases phase

theorem completes_of_same {output : String} {exitCode : Int}
    (completes : before.Completes output exitCode) (feed : after.feed = before.feed)
    (drain : after.drain = before.drain) (child : after.child = before.child) :
    after.Completes output exitCode where
  fed := feed ▸ completes.fed
  drained := drain ▸ completes.drained
  decoded := drain ▸ completes.decoded
  reaped := child ▸ completes.reaped

theorem completionKept_moves {move : Move} (kept : CompletionKept before)
    (moves : Moves before move after) : CompletionKept after := by
  intro output exitCode result
  cases moves with
  | reap early status phase feed ended child =>
    obtain ⟨rfl, rfl⟩ : Text.decode before.drain.collected = output ∧ status.code = exitCode := by
      simpa [result?, decide, report, outcome] using result
    exact ⟨⟨early, feed⟩, ended, rfl, status, rfl, rfl⟩
  | kill decided phase =>
    have earlier : before.result? = some (.ok (.completed output exitCode)) := by
      rw [← result, result?, phase]
      rfl
    exact completes_of_same (kept output exitCode earlier) rfl rfl rfl
  | bury decided status phase child =>
    have earlier : before.result? = some (.ok (.completed output exitCode)) := by
      rw [← result, result?, phase]
      rfl
    have completes := kept output exitCode earlier
    obtain ⟨known, reaped, code⟩ := completes.reaped
    have same : status = known := by
      rw [reaped] at child
      rcases child with child | child
      · cases child
      · exact (Child.reaped.inj child).symm
    exact ⟨completes.fed, completes.drained, completes.decoded, status, rfl, same ▸ code⟩
  | announce | openOutput | openOutputFails | writeFails | readFails | waitFails | expire | dropOpen
  | dropDecided | dropStopping =>
    cases result
  | write _ _ phase | abandonInput _ phase | closeInput _ phase | read _ phase | readEnd phase =>
    have none : before.result? = none := result?_of_isOpen (phase ▸ trivial)
    cases none.symm.trans result

theorem completionKept_does {deed : Deed} (kept : CompletionKept before)
    (does : Does before deed after) : CompletionKept after := by
  intro output exitCode result
  cases does with
  | exit status child =>
    obtain ⟨known, reaped, _⟩ := (kept output exitCode result).reaped
    rw [child] at reaped
    cases reaped
  | _ => exact completes_of_same (kept output exitCode result) rfl rfl rfl

theorem completionKept_play
    (played : (start executable script timeout inputCapacity outputCapacity).play? actions =
      some reached) :
    CompletionKept reached := by
  refine play?_induction (motive := fun _ reached => CompletionKept reached) ?_ ?_ played
  · intro output exitCode result
    cases result
  intro earlier before action after kept acted
  cases action with
  | harness move => exact completionKept_moves kept (moves_of_move? acted)
  | target deed => exact completionKept_does kept (deed?_eq_some_iff.mp acted)

/-! ### Completed runs -/

/-- A run that completes has drained all that was ever written as output, by whomever and in
whatever pieces, and shows it as one text. Every descriptor for writing output had been closed, and
since the harness announced the child it had none of its own. All of the script was accepted, or
nobody was left to read the rest. The child ended once, and the exit code tells how; it is -1 for a
signal and for nothing else. -/
theorem completed_run_conserves (output : String) (exitCode : Int)
    (played : (start executable script timeout inputCapacity outputCapacity).play? actions =
      some reached)
    (returned : reached.phase = .returned (.ok (.completed output exitCode))) :
    output = Text.decode (written actions) ∧
    (reached.output.writers = 0 ∧
      actions.count (.target .closeOutput) = 2 + actions.count (.target .shareOutput) ∧
      ∀ earlier later middle, actions = earlier ++ later →
        (start executable script timeout inputCapacity outputCapacity).play? earlier =
          some middle →
        middle.phase = .spawned ∨ middle.ownWriters = 0) ∧
    ((reached.feed = .closed false ∧ accepted actions = script.length) ∨
      (reached.feed = .closed true ∧ accepted actions < script.length ∧
        reached.input.broken = true)) ∧
    ∃ status, reached.child = .reaped status ∧ exits actions = [status] ∧
      exitCode = status.code ∧ (exitCode = -1 ↔ ∃ signal, status = .signalled signal) := by
  have completes : reached.Completes output exitCode := by
    refine completionKept_play played output exitCode ?_
    rw [result?, returned]
  obtain ⟨empty, closed⟩ := endIsFinal_play played completes.drained
  have writers := writersKept_play played
  have own : reached.ownWriters = 0 := by
    have own_le := writers.own_le
    omega
  refine ⟨?_, ⟨closed, ?_, ?_⟩, ?_, ?_⟩
  · rw [completes.decoded, ← collected_append_held played, empty, List.append_nil]
  · have total := writers.total
    omega
  · intro earlier later middle _ playedEarlier
    exact (writersKept_play playedEarlier).released
  · have kept := scriptKept_play played
    obtain ⟨early, feed⟩ := completes.fed
    rw [ScriptKept, feed] at kept
    rw [feed]
    cases early with
    | false => exact .inl ⟨rfl, kept⟩
    | true => exact .inr ⟨rfl, kept⟩
  · obtain ⟨status, reaped, code⟩ := completes.reaped
    have kept := childKept_play played
    rw [ChildKept, reaped] at kept
    exact ⟨status, reaped, kept, code, code ▸ ExitStatus.code_eq_neg_one_iff status⟩

/-- A target reads a part of the script and closes its input. It writes half a character to its
standard output and is killed; a process that it left behind writes the other half to its standard
error. -/
def brokenOffRun : List Action :=
  [.harness (.announce 7), .harness .openOutput, .target .shareOutput, .harness (.write 1),
    .target (.read 1), .target (.write .standardOutput (.ofBytes [0xC3])), .harness (.read 1),
    .target .closeInput, .harness .abandonInput, .target .closeOutput, .target .closeOutput,
    .target (.exit (.signalled .kill)), .target (.write .standardError (.ofBytes [0xA9])),
    .target .closeOutput, .harness (.read 1), .harness .readEnd, .harness .reap, .harness .kill,
    .harness .bury]

theorem completed_run_conserves_brokenOff :
    ∃ reached, (start [] [104, 105] ⟨1000⟩ 1 1).play? brokenOffRun = some reached ∧
      reached.phase = .returned (.ok (.completed "é" (-1))) ∧
      "é" = Text.decode (written brokenOffRun) ∧
      reached.output.writers = 0 ∧
      (reached.feed = .closed true ∧ accepted brokenOffRun = 1 ∧ reached.input.broken = true) ∧
      ∃ status, reached.child = .reaped status ∧ exits brokenOffRun = [status] ∧
        ∃ signal, status = .signalled signal := by
  obtain ⟨reached, played, returned⟩ :
      ∃ reached, (start [] [104, 105] ⟨1000⟩ 1 1).play? brokenOffRun = some reached ∧
        reached.phase = .returned (.ok (.completed "é" (-1))) := ⟨_, rfl, rfl⟩
  obtain ⟨decoded, ⟨closed, _⟩, fed, status, reaped, once, _, signalled⟩ :=
    completed_run_conserves "é" (-1) played returned
  have early : reached.feed = .closed true ∧ accepted brokenOffRun = 1 ∧
      reached.input.broken = true := by
    rcases fed with ⟨_, whole⟩ | ⟨early, _, broken⟩
    · cases whole
    · exact ⟨early, rfl, broken⟩
  exact ⟨reached, played, returned, decoded, closed, early, status, reaped, once,
    signalled.mp rfl⟩

end Exchange

end ShellSmoke
