/-
This file proves that a target which copies its input passes, and that its output is the script. On
its own such a target keeps the books: what it has written, what it holds back and what is left of
the script are the whole script together. At its exit nothing is held back and nothing is left. The
bytes that a completed run collects are therefore the encoding of the script, cut anywhere on their
way but decoded at once, and decoding undoes encoding.
-/

import ShellSmoke.Exchange.Copying
import ShellSmoke.Proofs.Exchange.Agreement
import ShellSmoke.Proofs.Invocation
import ShellSmoke.Proofs.Script
import ShellSmoke.Proofs.Sink
import ShellSmoke.Proofs.Text

namespace ShellSmoke

open Relation (ReflTransGen)

/-! ### A copy on its own -/

namespace Solo

variable {State : Type} {target : Target State} {held : State → Bytes} {metEnd : State → Prop}
variable {script : Bytes} {before after : Solo State}

/-- The books of a target on its own that copies a script. A descriptor is let go of only when it is
of no more use. -/
structure IsCopying (held : State → Bytes) (metEnd : State → Prop) (script : Bytes)
    (solo : Solo State) : Prop where
  whole : solo.written ++ held solo.state ++ solo.left = script
  reads : solo.reads = true ∨ metEnd solo.state
  ended : metEnd solo.state → solo.left = []
  writes : solo.writes .standardOutput = true ∨ metEnd solo.state ∧ held solo.state = []

theorem isCopying_start {state : State} (nothing : held state = []) (fresh : ¬ metEnd state)
    (script : Bytes) : IsCopying held metEnd script (.start state script) where
  whole := by
    show [] ++ held state ++ script = script
    rw [nothing, List.nil_append, List.nil_append]
  reads := .inl rfl
  ended metEnd := absurd metEnd fresh
  writes := .inl rfl

theorem isCopying_step (keeps : target.KeepsCopy held metEnd)
    (copying : IsCopying held metEnd script before) (step : Step target before after) :
    IsCopying held metEnd script after := by
  cases step with
  | read limit count next reads positive within available =>
    obtain ⟨_, books⟩ := keeps.read _ _ next
    obtain ⟨gains, meets⟩ := books (before.left.take count)
    have notEnded : ¬ metEnd before.state := by
      intro ended
      rw [copying.ended ended, List.length_nil] at available
      omega
    have some : before.left.take count ≠ [] := by
      rw [Ne, List.take_eq_nil_iff]
      rintro (none | none)
      · omega
      · rw [none, List.length_nil] at available
        omega
    have goesOn : ¬ metEnd (target.after before.state (before.left.take count)) := by
      rw [meets]
      rintro (ended | nothing)
      · exact notEnded ended
      · exact some nothing
    refine ⟨?_, .inl reads, fun ended => absurd ended goesOn, ?_⟩
    · dsimp only
      rw [gains, List.append_assoc, List.append_assoc, List.take_append_drop, ← List.append_assoc]
      exact copying.whole
    · exact .inl (copying.writes.resolve_right fun done => notEnded done.1)
  | readNothing limit next nothing =>
    obtain ⟨positive, books⟩ := keeps.read _ _ next
    obtain ⟨gains, meets⟩ := books []
    rw [List.append_nil] at gains
    have ended : metEnd (target.after before.state []) := meets.mpr (.inr rfl)
    have empty : before.left = [] := by
      rcases nothing with none | closed | empty
      · omega
      · refine copying.ended (copying.reads.resolve_left ?_)
        rw [closed]
        exact Bool.false_ne_true
      · exact empty
    refine ⟨?_, .inr ended, fun _ => empty, ?_⟩
    · dsimp only
      rw [gains]
      exact copying.whole
    · refine copying.writes.imp_right fun done => ⟨ended, ?_⟩
      dsimp only
      rw [gains]
      exact done.2
  | write stream bytes next =>
    obtain ⟨rfl, loses, meets⟩ := keeps.write _ _ _ next
    have part : (if before.writes .standardOutput then bytes else []) = bytes := by
      rcases copying.writes with writes | ⟨_, nothing⟩
      · rw [if_pos writes]
      · -- A target that has nothing to write any more writes nothing.
        rw [loses] at nothing
        rw [(List.append_eq_nil_iff.mp nothing).1, ite_self]
    refine ⟨?_, ?_, fun ended => copying.ended (meets.mp ended), ?_⟩
    · dsimp only
      rw [part, List.append_assoc before.written, ← loses]
      exact copying.whole
    · exact copying.reads.imp_right meets.mpr
    · refine copying.writes.imp_right fun ⟨ended, nothing⟩ => ⟨meets.mpr ended, ?_⟩
      rw [loses] at nothing
      exact (List.append_eq_nil_iff.mp nothing).2
  | closeInput next =>
    obtain ⟨ended, same, endedAfter⟩ := keeps.closeInput _ next
    refine ⟨?_, .inr endedAfter, fun _ => copying.ended ended, ?_⟩
    · dsimp only
      rw [same]
      exact copying.whole
    · refine copying.writes.imp_right fun done => ⟨endedAfter, ?_⟩
      dsimp only
      rw [same]
      exact done.2
  | closeOutput stream next =>
    obtain ⟨done, same, meets⟩ := keeps.closeOutput _ _ next
    refine ⟨?_, copying.reads.imp_right meets.mpr, fun ended => copying.ended (meets.mp ended), ?_⟩
    · dsimp only
      rw [same]
      exact copying.whole
    · dsimp only
      rw [same, meets]
      by_cases output : stream = .standardOutput
      · exact .inr (done output)
      · rw [if_neg (Ne.symm output)]
        exact copying.writes

end Solo

namespace Target

variable {State : Type} {target : Target State} {state : State}

/-- A target that copies comes to nothing but the script itself and an exit with code 0. -/
theorem Copies.eq_of_yields {script output : Bytes} {status : ExitStatus}
    (copies : target.Copies state) (yields : target.Yields state script output status) :
    output = script ∧ status = .exited 0 := by
  obtain ⟨held, metEnd, keeps, nothing, fresh⟩ := copies
  obtain ⟨last, reaches, exits, rfl⟩ := yields
  have copying : last.IsCopying held metEnd script := by
    clear exits
    induction reaches with
    | refl => exact Solo.isCopying_start nothing fresh script
    | tail _ step inductionHypothesis => exact Solo.isCopying_step keeps inductionHypothesis step
  obtain ⟨code, ended, empty⟩ := keeps.exit _ _ exits
  have whole := copying.whole
  rw [empty, copying.ended ended, List.append_nil, List.append_nil] at whole
  exact ⟨whole, code⟩

/-- A completed run of a target that copies returns the text of the script, and exit code 0. -/
theorem Copies.eq_of_mayReturn {job : Job} {text output : String} {exitCode : Int}
    (copies : target.Copies state) (script : job.script = Bytes.ofString text)
    (returns : target.MayReturn state job (.ok (.completed output exitCode))) :
    output = text ∧ exitCode = 0 := by
  obtain ⟨bytes, status, yields, rfl, rfl⟩ := yields_of_mayReturn returns
  obtain ⟨rfl, rfl⟩ := copies.eq_of_yields yields
  rw [script, Text.decode_ofString]
  exact ⟨rfl, rfl⟩

end Target

/-- A target that copies by way of a buffer copies. -/
theorem Copying.copies_target {size : Nat} (positive : 0 < size) :
    (target size).Copies reading := by
  refine ⟨buffer, (· = ended), ?_, rfl, nofun⟩
  constructor
  · rintro (_ | bytes | _) limit next <;> cases next
    refine ⟨positive, fun bytes => ?_⟩
    by_cases none : bytes = []
    · subst none
      exact ⟨rfl, by simp [target]⟩
    · simp [target, buffer, none]
  · rintro (_ | bytes | _) stream written next <;> cases next
    exact ⟨rfl, (List.append_nil bytes).symm, by simp [target]⟩
  · rintro (_ | bytes | _) next <;> cases next
  · rintro (_ | bytes | _) stream next <;> cases next
  · rintro (_ | bytes | _) status next <;> cases next
    exact ⟨rfl, rfl, rfl⟩

/-! ### Checks of a copy -/

namespace Harness

open Invocation

/-- Against a target that copies its input until it meets the end and then exits with code 0, every
completed run of a suite is a pass, and its output is the script of the suite: for each case in turn
the line that prints its label and the case as it is, and nothing else. A check on a stream that
accepts everything succeeds and leaves there the script and a newline, which is what is printed when
the script is shown instead of sent, and a newline. -/
theorem copied_script_passes {State World : Type} (target : Target State) (state : State)
    (copies : target.Copies state) (harness : Harness) (runner : Runner World) (world : World)
    (output : String) (exitCode : Int)
    (completed : (runner harness.job world).1.result = .ok (.completed output exitCode))
    (returns : target.MayReturn state harness.job (.ok (.completed output exitCode))) :
    let script := (Script.compose harness.suite).render
    (harness.run runner world).1 = .ok (.pass script) ∧
    script = String.join (harness.suite.cases.mapIdx fun place case =>
      "echo \"$> Test " ++ toString (place + 1) ++ "\"" ++ "\n" ++ case.command ++ "\n") ∧
    ∀ sink : Sink, sink.IsWilling →
      ((harness.check runner sink world).1.1 = .ok () ∧
        (harness.check runner sink world).1.2.accepted =
          sink.accepted ++ Bytes.ofString (script ++ "\n")) ∧
      ∀ name bytes journal options,
        (carryOut runner name bytes journal sink world (.check options harness)).1.output =
          (carryOut runner name bytes journal sink world
            (.showScript options harness)).1.output ++ Bytes.ofString "\n" := by
  intro script
  have same : output = script ∧ exitCode = 0 := copies.eq_of_mayReturn rfl returns
  rw [same.1, same.2] at completed
  have blocks : script = String.join (harness.suite.cases.mapIdx fun place case =>
      Script.block (place + 1) case) := Script.render_compose harness.suite
  refine ⟨?_, ?_, fun sink willing => ?_⟩
  · show judge (runner harness.job world).1.result = _
    rw [completed]
    rfl
  · simp only [Script.block_eq] at blocks
    exact blocks
  have passes : (present (.ok (.completed script 0)) sink).1 = .ok () ∧
      (present (.ok (.completed script 0)) sink).2.accepted =
        sink.accepted ++ Bytes.ofString (script ++ "\n") :=
    present_of_isWilling willing (.completed script 0)
  refine ⟨?_, fun name bytes journal options => ?_⟩
  · show (present (runner harness.job world).1.result sink).1 = _ ∧
      (present (runner harness.job world).1.result sink).2.accepted = _
    rw [completed]
    exact passes
  · have shown : (sink.writeTranscript harness.script.render).2.accepted =
        sink.accepted ++ Bytes.ofString script := (willing.writeTranscript script).2
    rw [carryOut_check, carryOut_showScript, completed]
    unfold reportOn
    dsimp only
    rw [passes.2, shown, Bytes.ofString_append, List.append_assoc]

/-- A harness with one case, of which the script has 22 bytes. -/
def accentedCase : Harness := ⟨[], ⟨[⟨"\n\"é"⟩]⟩, ⟨1000⟩⟩

/-- The script is copied by way of a buffer of 20 bytes, which ends in the middle of a character. -/
def copiedRun : List Encounter.Turn :=
  [.harness (.announce 7), .harness .openOutput, .harness (.write 22), .harness .closeInput,
    .target 20, .target 20, .target 0, .harness (.read 20), .target 2, .target 2, .target 0,
    .target 0, .target 0, .target 0, .target 0, .target 0, .harness (.read 2), .harness .readEnd,
    .harness .reap, .harness .kill, .harness .bury]

/-- A stream that takes three bytes at first and is interrupted once. -/
def hesitantSink : Sink := { writeAnswers := [.accepts 3, .fails (.plain .interrupted)] }

theorem copied_script_passes_accented :
    ∃ reached output exitCode,
      (Encounter.start [] accentedCase.job.script ⟨1000⟩ 22 20 Copying.reading).run?
        (Copying.target 20) copiedRun = some reached ∧
      reached.exchange.phase = .returned (.ok (.completed output exitCode)) ∧
      reached.exchange.drain.chunks.map List.length = [2, 20] ∧
      let runner : Runner Unit := fun _ world =>
        (⟨.ok (.completed output exitCode), reached.exchange.log⟩, world)
      (accentedCase.run runner ()).1 = .ok (.pass "echo \"$> Test 1\"\n\n\"é\n") ∧
      (accentedCase.check runner hesitantSink ()).1.1 = .ok () ∧
      (accentedCase.check runner hesitantSink ()).1.2.accepted =
        Bytes.ofString "echo \"$> Test 1\"\n\n\"é\n\n" := by
  obtain ⟨reached, output, exitCode, ran, returned, pieces⟩ :
      ∃ reached output exitCode,
        (Encounter.start [] accentedCase.job.script ⟨1000⟩ 22 20 Copying.reading).run?
          (Copying.target 20) copiedRun = some reached ∧
        reached.exchange.phase = .returned (.ok (.completed output exitCode)) ∧
        reached.exchange.drain.chunks.map List.length = [2, 20] :=
    ⟨_, _, _, rfl, rfl, rfl⟩
  have returns : (Copying.target 20).MayReturn .reading accentedCase.job
      (.ok (.completed output exitCode)) := ⟨22, 20, copiedRun, reached, ran, returned⟩
  have willing : hesitantSink.IsWilling := ⟨by decide, by decide⟩
  obtain ⟨passes, _, checks⟩ := copied_script_passes (Copying.target 20) .reading
    (Copying.copies_target (by decide)) accentedCase
    (fun _ world => (⟨.ok (.completed output exitCode), reached.exchange.log⟩, world)) ()
    output exitCode rfl returns
  obtain ⟨⟨succeeds, accepted⟩, _⟩ := checks hesitantSink willing
  exact ⟨reached, output, exitCode, ran, returned, pieces, passes, succeeds, accepted⟩

end Harness

end ShellSmoke
