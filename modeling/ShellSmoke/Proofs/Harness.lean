/-
This file proves what a check makes of a run and of the stream it prints on, in every combination.
A run that failed is reported and leaves the stream alone. Any other run has a transcript, of which
the stream gains a beginning. A failure to write or to flush outranks the verdict; only if all of
the transcript was accepted and the one flush succeeded does the verdict decide. The main result
says so of any number of checks one after another on one stream.
-/

import ShellSmoke.Harness
import ShellSmoke.Proofs.Sink

namespace ShellSmoke

/-! ### What is to be printed -/

/-- The diagnostic of an outcome that is no pass. -/
def Outcome.diagnostic? : Outcome → Option String
  | .completed _ exitCode => if exitCode = 0 then none else some "Expected zero exit code"
  | .timedOut => some "Too long no output. Probably you forgot to process EOF"

/-- What is printed of an outcome: the output of a pass, else the diagnostic, and a newline. -/
def Outcome.transcript : Outcome → Bytes
  | .completed output exitCode =>
    Bytes.ofString ((if exitCode = 0 then output else "Expected zero exit code") ++ "\n")
  | .timedOut => Bytes.ofString ("Too long no output. Probably you forgot to process EOF" ++ "\n")

/-- Whether writing bytes on a stream and flushing it fails, and how. -/
def Sink.FailsWith (sink : Sink) (bytes : Bytes) (failure : IoError) : Prop :=
  Refuses sink.writeAnswers bytes.length failure ∨
    (∀ other, ¬ Refuses sink.writeAnswers bytes.length other) ∧
      sink.flushAnswers.head? = some (.fails failure)

/-- Whether all of some bytes were accepted and the flush after them succeeded. -/
def Sink.ShownOn (bytes : Bytes) (before after : Sink) : Prop :=
  after.accepted = before.accepted ++ bytes ∧ after.flushes = before.flushes + 1 ∧
    ∀ failure, before.flushAnswers.head? ≠ some (.fails failure)

/-- Either all of the bytes were accepted and the flush succeeded, or there is one failure. -/
theorem Sink.Writes.shownOn_or_failsWith {bytes : Bytes} {before after : Sink}
    {status : Except ExitError Unit} (writes : before.Writes bytes status after) :
    (status = .ok () ∧ Sink.ShownOn bytes before after ∧
        ∀ failure, ¬ before.FailsWith bytes failure) ∨
      ∃ failure, status = .error (.ofIoError failure) ∧ ¬ Sink.ShownOn bytes before after ∧
        ∀ other, before.FailsWith bytes other ↔ other = failure := by
  cases writes with
  | refused failure part after refuses isPrefix proper accepted flushes =>
    refine .inr ⟨failure, rfl, fun shown => ?_, fun other => ⟨?_, ?_⟩⟩
    · exact proper (List.append_cancel_left (accepted.symm.trans shown.1))
    · rintro (refusesOther | ⟨takes, _⟩)
      · exact refuses_unique refuses refusesOther
      · exact absurd refuses (takes failure)
    · rintro rfl
      exact .inl refuses
  | unflushed failure after takes flushFails accepted flushes =>
    refine .inr ⟨failure, rfl, fun shown => shown.2.2 failure flushFails, fun other => ⟨?_, ?_⟩⟩
    · rintro (refuses | ⟨_, flushFailsOther⟩)
      · exact absurd refuses (takes other)
      · exact FlushAnswer.fails.inj (Option.some.inj (flushFailsOther.symm.trans flushFails))
    · rintro rfl
      exact .inr ⟨takes, flushFails⟩
  | shown after takes flushes? accepted flushes =>
    refine .inl ⟨rfl, ⟨accepted, flushes, flushes?⟩, fun failure fails => ?_⟩
    rcases fails with refuses | ⟨_, flushFails⟩
    · exact takes failure refuses
    · exact flushes? failure flushFails

namespace Harness

/-! ### One check -/

/-- What a check of a run with an outcome comes to on a stream. -/
structure Presents (outcome : Outcome) (before : Sink) (status : Except ExitError Unit)
    (after : Sink) : Prop where
  gains : ∃ part, part <+: outcome.transcript ∧ after.accepted = before.accepted ++ part
  flushes : after.flushes = before.flushes +
    if after.accepted = before.accepted ++ outcome.transcript then 1 else 0
  shown_iff : Sink.ShownOn outcome.transcript before after ↔
    ∀ failure, ¬ before.FailsWith outcome.transcript failure
  passes_iff : status = .ok () ↔
    (∃ output, outcome = .completed output 0) ∧ Sink.ShownOn outcome.transcript before after
  fails_iff : ∀ diagnostic, status = .error ⟨-1, diagnostic⟩ ↔
    outcome.diagnostic? = some diagnostic ∧ Sink.ShownOn outcome.transcript before after
  breaks_iff : ∀ message, status = .error ⟨1, message⟩ ↔
    ∃ failure, before.FailsWith outcome.transcript failure ∧ message = "error: " ++ failure.text

/-- What a check comes to on a stream: a run that failed is reported and leaves the stream alone. -/
def Checks (result : Except RunError Outcome) (before : Sink) (status : Except ExitError Unit)
    (after : Sink) : Prop :=
  match result with
  | .error failure => status = .error ⟨1, "error: " ++ failure.message⟩ ∧ after = before
  | .ok outcome => Presents outcome before status after

theorem diagnostic?_eq_none_iff (outcome : Outcome) :
    outcome.diagnostic? = none ↔ ∃ output, outcome = .completed output 0 := by
  cases outcome with
  | timedOut => exact iff_of_false nofun nofun
  | completed output exitCode =>
    rw [Outcome.diagnostic?, ite_eq_left_iff]
    constructor
    · intro zero
      exact ⟨output, congrArg _ (Classical.not_not.mp fun other => nomatch zero other)⟩
    · rintro ⟨_, same⟩ other
      exact absurd (Outcome.completed.inj same).2 other

/-- The verdict prints the transcript. -/
theorem transcript_ofOutcome (outcome : Outcome) :
    Bytes.ofString (Verdict.ofOutcome outcome).transcript = outcome.transcript := by
  cases outcome with
  | timedOut => rfl
  | completed output exitCode =>
    unfold Verdict.ofOutcome Outcome.transcript
    dsimp only
    split <;> rfl

/-- The verdict is a pass, or a failure with the diagnostic. -/
theorem result_ofOutcome (outcome : Outcome) :
    (Verdict.ofOutcome outcome).result =
      match outcome.diagnostic? with
      | none => .ok ()
      | some diagnostic => .error ⟨-1, diagnostic⟩ := by
  cases outcome with
  | timedOut => rfl
  | completed output exitCode =>
    unfold Verdict.ofOutcome Outcome.diagnostic?
    dsimp only
    split <;> rfl

/-- A stream that fails outranks the verdict. -/
theorem presents_of_failsWith {outcome : Outcome} {before after : Sink} {failure : IoError}
    (gains : ∃ part, part <+: outcome.transcript ∧ after.accepted = before.accepted ++ part)
    (flushes : after.flushes = before.flushes +
      if after.accepted = before.accepted ++ outcome.transcript then 1 else 0)
    (notShown : ¬ Sink.ShownOn outcome.transcript before after)
    (failsWith : ∀ other, before.FailsWith outcome.transcript other ↔ other = failure) :
    Presents outcome before (.error (.ofIoError failure)) after where
  gains := gains
  flushes := flushes
  shown_iff := iff_of_false notShown fun none => none failure ((failsWith failure).mpr rfl)
  passes_iff := iff_of_false nofun fun passes => notShown passes.2
  fails_iff diagnostic := by
    refine iff_of_false (fun same => ?_) fun fails => notShown fails.2
    have codes : (1 : Int) = -1 := congrArg ExitError.code (Except.error.inj same)
    exact absurd codes (by decide)
  breaks_iff message := by
    constructor
    · intro same
      have messages := congrArg ExitError.message (Except.error.inj same)
      exact ⟨failure, (failsWith failure).mpr rfl, messages.symm⟩
    · rintro ⟨other, fails, rfl⟩
      rw [(failsWith other).mp fails]
      rfl

/-- A transcript that is shown leaves the verdict to decide. -/
theorem presents_of_shownOn {outcome : Outcome} {before after : Sink}
    (shown : Sink.ShownOn outcome.transcript before after)
    (notFails : ∀ failure, ¬ before.FailsWith outcome.transcript failure) :
    Presents outcome before (Verdict.ofOutcome outcome).result after where
  gains := ⟨outcome.transcript, List.prefix_rfl, shown.1⟩
  flushes := by rw [if_pos shown.1, shown.2.1]
  shown_iff := iff_of_true shown notFails
  passes_iff := by
    rw [result_ofOutcome, ← diagnostic?_eq_none_iff, and_iff_left shown]
    cases outcome.diagnostic? with
    | none => exact iff_of_true rfl rfl
    | some diagnostic => exact iff_of_false nofun nofun
  fails_iff diagnostic := by
    rw [result_ofOutcome, and_iff_left shown]
    cases outcome.diagnostic? with
    | none => exact iff_of_false nofun nofun
    | some other => simp
  breaks_iff message := by
    refine iff_of_false (fun same => ?_) fun breaks => ?_
    · rw [result_ofOutcome] at same
      cases diagnosed : outcome.diagnostic? with
      | none =>
        rw [diagnosed] at same
        cases same
      | some diagnostic =>
        rw [diagnosed] at same
        have codes : (-1 : Int) = 1 := congrArg ExitError.code (Except.error.inj same)
        exact absurd codes (by decide)
    · obtain ⟨failure, fails, _⟩ := breaks
      exact notFails failure fails

theorem presents_of_writes {outcome : Outcome} {before after : Sink}
    {written status : Except ExitError Unit}
    (writes : before.Writes outcome.transcript written after)
    (failed : ∀ failure, written = .error failure → status = .error failure)
    (succeeded : written = .ok () → status = (Verdict.ofOutcome outcome).result) :
    Presents outcome before status after := by
  have gains := writes.gains
  have flushes := writes.flushes
  rcases writes.shownOn_or_failsWith with
    ⟨rfl, shown, notFails⟩ | ⟨failure, rfl, notShown, failsWith⟩
  · rw [succeeded rfl]
    exact presents_of_shownOn shown notFails
  · rw [failed _ rfl]
    exact presents_of_failsWith gains flushes notShown failsWith

/-- A check comes to what it has to. -/
theorem checks_present (result : Except RunError Outcome) (sink : Sink) :
    Checks result sink (present result sink).1 (present result sink).2 := by
  cases result with
  | error failure => exact ⟨rfl, rfl⟩
  | ok outcome =>
    have writes := sink.writes_writeTranscript (Verdict.ofOutcome outcome).transcript
    rw [transcript_ofOutcome] at writes
    show Presents outcome sink (present (.ok outcome) sink).1 (present (.ok outcome) sink).2
    unfold present judge
    dsimp only
    generalize sink.writeTranscript (Verdict.ofOutcome outcome).transcript = written at writes ⊢
    obtain ⟨status | status, after⟩ := written
    · exact presents_of_writes writes (fun _ same => same) nofun
    · exact presents_of_writes writes nofun (fun _ => rfl)

/-- On a stream that accepts everything the verdict decides. -/
theorem present_of_isWilling {sink : Sink} (willing : sink.IsWilling) (outcome : Outcome) :
    (present (.ok outcome) sink).1 = (Verdict.ofOutcome outcome).result ∧
      (present (.ok outcome) sink).2.accepted = sink.accepted ++ outcome.transcript := by
  obtain ⟨succeeds, accepted⟩ := willing.writeTranscript (Verdict.ofOutcome outcome).transcript
  rw [transcript_ofOutcome] at accepted
  unfold present judge
  dsimp only
  generalize sink.writeTranscript (Verdict.ofOutcome outcome).transcript = written at *
  obtain ⟨status, after⟩ := written
  cases succeeds
  exact ⟨rfl, accepted⟩

/-! ### Checks one after another -/

/-- The results of so many runs, one after another in one world. -/
def results {World : Type} (runner : Runner World) (harness : Harness) :
    (times : Nat) → World → List (Except RunError Outcome)
  | 0, _ => []
  | times + 1, world =>
    let (run, world) := runner harness.job world
    run.result :: harness.results runner times world

/-- Whether each of some checks on one stream comes to what it has to, on the stream as the checks
before it have left it. -/
inductive ChecksAll :
    List (Except RunError Outcome) → Sink → List (Except ExitError Unit × Sink) → Prop where
  | none (sink : Sink) : ChecksAll [] sink []
  | next {result : Except RunError Outcome} {before after : Sink}
    {status : Except ExitError Unit} {results : List (Except RunError Outcome)}
    {steps : List (Except ExitError Unit × Sink)} (first : Checks result before status after)
    (later : ChecksAll results after steps) :
    ChecksAll (result :: results) before ((status, after) :: steps)

/-- Any number of checks on one stream, whatever the runs come to and whatever the stream does, each
come to what they have to. -/
theorem checkTimes_checksAll {World : Type} (runner : Runner World) (harness : Harness)
    (times : Nat) (sink : Sink) (world : World) :
    (harness.results runner times world).length = times ∧
      ChecksAll (harness.results runner times world) sink
        (harness.checkTimes runner times sink world).1 := by
  induction times generalizing sink world with
  | zero => exact ⟨rfl, .none sink⟩
  | succ times inductionHypothesis =>
    unfold results checkTimes check
    obtain ⟨run, between⟩ := runner harness.job world
    obtain ⟨count, later⟩ := inductionHypothesis (present run.result sink).2 between
    refine ⟨?_, .next (checks_present run.result sink) later⟩
    rw [List.length_cons, count]

end Harness

end ShellSmoke
