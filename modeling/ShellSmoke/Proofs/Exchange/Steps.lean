/-
This file says once what each step of an exchange can do: in which state it is possible, and which
state it leads to. The step functions compute exactly these relations, so that whoever argues about
executions goes through the constructors here and does not open the functions again. It also gives
the induction over an execution: what holds at the start and is kept by each step holds whenever the
execution is looked at.
-/

import Mathlib.Data.List.Induction
import ShellSmoke.Exchange

namespace ShellSmoke

/-! ### Runs of a partial step function -/

section Runs

variable {State Step : Type} (step : State → Step → Option State)

/-- A run that goes one step further is a run and then a step. -/
theorem foldlM_concat_eq_some_iff {reached : State} (start : State) (earlier : List Step)
    (last : Step) :
    (earlier ++ [last]).foldlM step start = some reached ↔
      ∃ before, earlier.foldlM step start = some before ∧ step before last = some reached := by
  rw [List.foldlM_append]
  show ((earlier.foldlM step start).bind fun before => (step before last).bind some) =
    some reached ↔ _
  rw [Option.bind_eq_some_iff]
  refine exists_congr fun before => and_congr_right fun _ => ?_
  rw [Option.bind_fun_some]

/-- What holds at the start of a run and is kept by every step holds at its end. -/
theorem foldlM_induction {motive : List Step → State → Prop} {start reached : State}
    {steps : List Step} (first : motive [] start)
    (next : ∀ earlier before last after, motive earlier before →
      step before last = some after → motive (earlier ++ [last]) after)
    (ran : steps.foldlM step start = some reached) : motive steps reached := by
  induction steps using List.reverseRecOn generalizing reached with
  | nil =>
    cases ran
    exact first
  | append_singleton earlier last inductionHypothesis =>
    obtain ⟨before, ranBefore, stepped⟩ :=
      (foldlM_concat_eq_some_iff step start earlier last).mp ran
    exact next earlier before last reached (inductionHypothesis ranBefore) stepped

end Runs

/-- Whether the run has no result yet and can still come to one. -/
def Phase.IsOpen : Phase → Prop
  | .spawned | .opening | .exchanging => True
  | .decided _ | .stopping _ | .returned _ | .dropped => False

namespace Exchange

/-! ### Steps of the harness -/

/-- What the harness can do in a state, and where that leads. -/
inductive Moves (before : Exchange) : Move → Exchange → Prop where
  | announce (process : Nat) (phase : before.phase = .spawned) :
    Moves before (.announce process)
      (report
        { before with
          output := before.output.removeWriters before.ownWriters
          ownWriters := 0
          phase := .opening }
        (.spawned process))
  | openOutput (phase : before.phase = .opening) :
    Moves before .openOutput { before with phase := .exchanging }
  | openOutputFails (failure : IoError) (phase : before.phase = .opening) :
    Moves before (.openOutputFails failure)
      { before.closeEnds.sendKill with phase := .returned (.error (.outputPipe failure)) }
  | write (count : Nat) (rest : Buffer) (phase : before.phase = .exchanging)
    (feed : before.feed = .writing rest) (positive : 0 < count)
    (fits : count ≤ before.input.free) (available : count ≤ rest.size)
    (read : before.input.broken = false) :
    Moves before (.write count)
      { before with
        feed := .writing (rest.drop count)
        input := before.input.push (rest.take count) }
  | abandonInput (rest : Buffer) (phase : before.phase = .exchanging)
    (feed : before.feed = .writing rest) (broken : before.input.broken = true)
    (unfinished : rest.isEmpty = false) :
    Moves before .abandonInput ((before.report .inputAbandoned).endFeed true)
  | closeInput (rest : Buffer) (phase : before.phase = .exchanging)
    (feed : before.feed = .writing rest) (finished : rest.isEmpty = true) :
    Moves before .closeInput (before.endFeed false)
  | writeFails (failure : IoError) (rest : Buffer) (phase : before.phase = .exchanging)
    (feed : before.feed = .writing rest) (unfinished : rest.isEmpty = false)
    (other : failure.kind ≠ .brokenPipe) :
    Moves before (.writeFails failure) (before.decide (.error (.input failure)))
  | read (count : Nat) (phase : before.phase = .exchanging) (positive : 0 < count)
    (available : count ≤ before.output.held.size) (notEnded : before.drain.ended = false) :
    Moves before (.read count)
      { before with
        drain := { before.drain with
          chunks := before.output.held.bytes.take count :: before.drain.chunks }
        output := before.output.pull count }
  | readEnd (phase : before.phase = .exchanging) (atEnd : before.output.atEnd = true)
    (notEnded : before.drain.ended = false) :
    Moves before .readEnd { before with drain := { before.drain with ended := true } }
  | readFails (failure : IoError) (phase : before.phase = .exchanging)
    (notEnded : before.drain.ended = false) :
    Moves before (.readFails failure) (before.decide (.error (.output failure)))
  | reap (early : Bool) (status : ExitStatus) (phase : before.phase = .exchanging)
    (feed : before.feed = .closed early) (ended : before.drain.ended = true)
    (child : before.child = .ended status) :
    Moves before .reap
      (decide
        (report { before with child := .reaped status }
          (.exited status.code before.drain.collected.length))
        (.ok (before.outcome status)))
  | waitFails (failure : IoError) (early : Bool) (phase : before.phase = .exchanging)
    (feed : before.feed = .closed early) (ended : before.drain.ended = true) :
    Moves before (.waitFails failure) (before.decide (.error (.wait before.executable failure)))
  | expire (phase : before.phase = .exchanging) :
    Moves before .expire ((before.report (.timedOut before.timeout)).decide (.ok .timedOut))
  | kill (result : Except RunError Outcome) (phase : before.phase = .decided result) :
    Moves before .kill { before.sendKill with phase := .stopping result }
  | bury (result : Except RunError Outcome) (status : ExitStatus)
    (phase : before.phase = .stopping result)
    (child : before.child = .ended status ∨ before.child = .reaped status) :
    Moves before .bury
      (report { before with child := .reaped status, phase := .returned result }
        (.killed status))
  | dropOpen (phase : before.phase.IsOpen) :
    Moves before .drop { before.closeEnds.sendKill with phase := .dropped }
  | dropDecided (result : Except RunError Outcome) (phase : before.phase = .decided result) :
    Moves before .drop { before.sendKill with phase := .dropped }
  | dropStopping (result : Except RunError Outcome) (phase : before.phase = .stopping result) :
    Moves before .drop { before with phase := .dropped }

/-- A step of the harness leads nowhere but to what the relation says. -/
theorem moves_of_move? {before after : Exchange} {move : Move}
    (moved : before.move? move = some after) : Moves before move after := by
  unfold move? at moved
  split at moved
  case h_1 process phase =>
    cases moved
    exact .announce process phase
  case h_2 phase =>
    cases moved
    exact .openOutput phase
  case h_3 failure phase =>
    cases moved
    exact .openOutputFails failure phase
  case h_4 count phase =>
    split at moved
    · rename_i rest feed
      split at moved
      · rename_i possible
        cases moved
        exact .write count rest phase feed possible.1 possible.2.1 possible.2.2.1
          (eq_false_of_ne_true possible.2.2.2)
      · cases moved
    · cases moved
  case h_5 phase =>
    split at moved
    · rename_i rest feed
      split at moved
      · rename_i possible
        cases moved
        exact .abandonInput rest phase feed possible.1 (eq_false_of_ne_true possible.2)
      · cases moved
    · cases moved
  case h_6 phase =>
    split at moved
    · rename_i rest feed
      split at moved
      · rename_i finished
        cases moved
        exact .closeInput rest phase feed finished
      · cases moved
    · cases moved
  case h_7 failure phase =>
    split at moved
    · rename_i rest feed
      split at moved
      · cases moved
      · rename_i possible
        cases moved
        rw [not_or] at possible
        exact .writeFails failure rest phase feed (eq_false_of_ne_true possible.1)
          possible.2
    · cases moved
  case h_8 count phase =>
    split at moved
    · rename_i possible
      cases moved
      exact .read count phase possible.1 possible.2.1 (eq_false_of_ne_true possible.2.2)
    · cases moved
  case h_9 phase =>
    split at moved
    · rename_i possible
      cases moved
      exact .readEnd phase possible.1 (eq_false_of_ne_true possible.2)
    · cases moved
  case h_10 failure phase =>
    split at moved
    · cases moved
    · rename_i notEnded
      cases moved
      exact .readFails failure phase (eq_false_of_ne_true notEnded)
  case h_11 phase =>
    split at moved
    · rename_i early status feed ended child
      cases moved
      exact .reap early status phase feed ended child
    · cases moved
  case h_12 failure phase =>
    split at moved
    · rename_i early feed ended
      cases moved
      exact .waitFails failure early phase feed ended
    · cases moved
  case h_13 phase =>
    cases moved
    exact .expire phase
  case h_14 result phase =>
    cases moved
    exact .kill result phase
  case h_15 result phase =>
    split at moved
    · cases moved
    · rename_i status child
      cases moved
      exact .bury result status phase (.inl child)
    · rename_i status child
      cases moved
      exact .bury result status phase (.inr child)
  case h_16 => cases moved
  case h_17 => cases moved
  case h_18 result phase =>
    cases moved
    exact .dropDecided result phase
  case h_19 result phase =>
    cases moved
    exact .dropStopping result phase
  case h_20 notReturned notDropped notDecided notStopping =>
    cases moved
    refine .dropOpen ?_
    cases phase : before.phase with
    | spawned | opening | exchanging => trivial
    | decided result => exact notDecided result phase
    | stopping result => exact notStopping result phase
    | returned result => exact notReturned result phase
    | dropped => exact notDropped phase
  case h_21 => cases moved

/-- Every step that the relation allows the harness can take. -/
theorem move?_of_moves {before after : Exchange} {move : Move} (moves : Moves before move after) :
    before.move? move = some after := by
  cases moves with
  | announce process phase => simp only [move?, phase]
  | openOutput phase => simp only [move?, phase]
  | openOutputFails failure phase => simp only [move?, phase]
  | write count rest phase feed positive fits available read =>
    simp [move?, phase, feed, positive, fits, available, read]
  | abandonInput rest phase feed broken unfinished => simp [move?, phase, feed, broken, unfinished]
  | closeInput rest phase feed finished => simp [move?, phase, feed, finished]
  | writeFails failure rest phase feed unfinished other =>
    simp [move?, phase, feed, unfinished, other]
  | read count phase positive available notEnded =>
    simp [move?, phase, positive, available, notEnded]
  | readEnd phase atEnd notEnded => simp [move?, phase, atEnd, notEnded]
  | readFails failure phase notEnded => simp [move?, phase, notEnded]
  | reap early status phase feed ended child => simp [move?, phase, feed, ended, child]
  | waitFails failure early phase feed ended => simp [move?, phase, feed, ended]
  | expire phase => simp only [move?, phase]
  | kill result phase => simp only [move?, phase]
  | bury result status phase child =>
    rcases child with child | child <;> simp only [move?, phase, child]
  | dropOpen phase =>
    cases now : before.phase with
    | spawned | opening | exchanging => simp only [move?, now]
    | decided _ | stopping _ | returned _ | dropped =>
      rw [now] at phase
      cases phase
  | dropDecided result phase => simp only [move?, phase]
  | dropStopping result phase => simp only [move?, phase]

theorem move?_eq_some_iff {before after : Exchange} {move : Move} :
    before.move? move = some after ↔ Moves before move after :=
  ⟨moves_of_move?, move?_of_moves⟩

/-! ### Steps on the other side -/

/-- What the child and its heirs can do in a state, and where that leads. -/
inductive Does (before : Exchange) : Deed → Exchange → Prop where
  | read (count : Nat) (positive : 0 < count) (available : count ≤ before.input.held.size)
    (hasReader : before.input.broken = false) :
    Does before (.read count) { before with input := before.input.pull count }
  | write (stream : Stream) (bytes : Buffer) (positive : 0 < bytes.size)
    (fits : bytes.size ≤ before.output.free) (hasWriter : before.ownWriters < before.output.writers)
    (read : before.output.broken = false) :
    Does before (.write stream bytes) { before with output := before.output.push bytes }
  | shareInput (hasReader : before.input.broken = false) :
    Does before .shareInput { before with input := before.input.addReader }
  | shareOutput (hasWriter : before.ownWriters < before.output.writers) :
    Does before .shareOutput { before with output := before.output.addWriter }
  | closeInput (hasReader : before.input.broken = false) :
    Does before .closeInput { before with input := before.input.removeReader }
  | closeOutput (hasWriter : before.ownWriters < before.output.writers) :
    Does before .closeOutput { before with output := before.output.removeWriters 1 }
  | exit (status : ExitStatus) (child : before.child = .running) :
    Does before (.exit status) { before with child := .ended status }

/-- A step on the other side leads nowhere but to what the relation says, and every step that the
relation allows can be taken. -/
theorem deed?_eq_some_iff {before after : Exchange} {deed : Deed} :
    before.deed? deed = some after ↔ Does before deed after := by
  constructor
  · intro done
    unfold deed? at done
    cases deed with
    | read count =>
      obtain ⟨⟨positive, available, hasReader⟩, taken⟩ := Option.ite_none_right_eq_some.mp done
      cases taken
      exact .read count positive available (eq_false_of_ne_true hasReader)
    | write stream bytes =>
      obtain ⟨⟨positive, fits, hasWriter, read⟩, taken⟩ := Option.ite_none_right_eq_some.mp done
      cases taken
      exact .write stream bytes positive fits hasWriter (eq_false_of_ne_true read)
    | shareInput =>
      obtain ⟨hasReader, taken⟩ := Option.ite_none_left_eq_some.mp done
      cases taken
      exact .shareInput (eq_false_of_ne_true hasReader)
    | shareOutput =>
      obtain ⟨hasWriter, taken⟩ := Option.ite_none_right_eq_some.mp done
      cases taken
      exact .shareOutput hasWriter
    | closeInput =>
      obtain ⟨hasReader, taken⟩ := Option.ite_none_left_eq_some.mp done
      cases taken
      exact .closeInput (eq_false_of_ne_true hasReader)
    | closeOutput =>
      obtain ⟨hasWriter, taken⟩ := Option.ite_none_right_eq_some.mp done
      cases taken
      exact .closeOutput hasWriter
    | exit status =>
      cases child : before.child with
      | running =>
        rw [child] at done
        cases done
        exact .exit status child
      | ended earlier | reaped earlier =>
        rw [child] at done
        cases done
  · intro does
    cases does with
    | read count positive available hasReader => simp [deed?, positive, available, hasReader]
    | write stream bytes positive fits hasWriter read =>
      simp [deed?, positive, fits, hasWriter, read]
    | shareInput hasReader => simp [deed?, hasReader]
    | shareOutput hasWriter => simp [deed?, hasWriter]
    | closeInput hasReader => simp [deed?, hasReader]
    | closeOutput hasWriter => simp [deed?, hasWriter]
    | exit status child => simp [deed?, child]

/-! ### Executions -/

variable {start reached : Exchange} {actions : List Action}

theorem play?_append (earlier later : List Action) :
    start.play? (earlier ++ later) = (start.play? earlier).bind fun middle => middle.play? later :=
  List.foldlM_append

theorem play?_cons {middle : Exchange} {action : Action} {later : List Action}
    (acted : start.act? action = some middle)
    (played : middle.play? later = some reached) :
    start.play? (action :: later) = some reached := by
  rw [play?, List.foldlM_cons, acted]
  exact played

theorem play?_concat_eq_some_iff (earlier : List Action) (action : Action) :
    start.play? (earlier ++ [action]) = some reached ↔
      ∃ before, start.play? earlier = some before ∧ before.act? action = some reached :=
  foldlM_concat_eq_some_iff act? start earlier action

/-- What holds at the start of an execution and is kept by every step holds at its end. -/
theorem play?_induction {motive : List Action → Exchange → Prop} (first : motive [] start)
    (next : ∀ earlier before action after, motive earlier before →
      before.act? action = some after → motive (earlier ++ [action]) after)
    (played : start.play? actions = some reached) : motive actions reached :=
  foldlM_induction act? first next played

end Exchange

end ShellSmoke
