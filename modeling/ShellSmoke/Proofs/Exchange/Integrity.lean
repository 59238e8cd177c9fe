/-
This file proves that the script reaches its readers as it is. However it is cut into pieces on its
way, what was read of it so far is its beginning, and what the pipe holds comes next; the accepted
bytes are these two together. As long as nothing has gone wrong the harness closes its end only
when all of the script was accepted or nobody is left to read it, so a reader that sees the end then
has before it the whole script and no less.
-/

import ShellSmoke.Harness
import ShellSmoke.Proofs.Exchange.Deadline

namespace ShellSmoke

namespace Exchange

variable {executable script : Bytes} {timeout : Duration} {inputCapacity outputCapacity : Nat}
variable {before after reached opened : Exchange} {actions : List Action}

/-! ### What is delivered -/

/-- The bytes of the script that a step brings to a reader. -/
def taken (exchange : Exchange) : Action → Bytes
  | .target (.read count) => exchange.input.held.bytes.take count
  | _ => []

/-- All bytes of the script that a sequence of steps brings to readers, in the order they are
read. -/
def delivered (exchange : Exchange) : List Action → Bytes
  | [] => []
  | action :: later =>
    exchange.taken action ++ match exchange.act? action with
      | some after => after.delivered later
      | none => []

theorem delivered_concat {earlier : List Action} (action : Action)
    (played : opened.play? earlier = some before) :
    opened.delivered (earlier ++ [action]) = opened.delivered earlier ++ before.taken action := by
  induction earlier generalizing opened with
  | nil =>
    cases played
    show before.taken action ++ _ = [] ++ before.taken action
    rw [List.nil_append]
    split <;> exact List.append_nil _
  | cons first rest inductionHypothesis =>
    rw [play?, List.foldlM_cons] at played
    obtain ⟨after, acted, played⟩ := Option.bind_eq_some_iff.mp played
    rw [List.cons_append, delivered, delivered, acted]
    dsimp only
    rw [inductionHypothesis played, List.append_assoc]

/-! ### The input pipe -/

theorem held_closeEnds (exchange : Exchange) :
    exchange.closeEnds.input.held = exchange.input.held := by
  unfold closeEnds
  dsimp only
  split <;> rfl

/-- A step of the harness puts the next bytes of the script into the pipe or leaves it as it is. -/
theorem held_moves {move : Move} {count : Nat} (kept : ScriptKept script count before)
    (moves : Moves before move after) :
    after.input.held.bytes =
      before.input.held.bytes ++ (script.drop count).take (accepted [.harness move]) := by
  cases moves with
  | write more rest phase feed positive fits available read =>
    rw [ScriptKept, feed] at kept
    show before.input.held.bytes ++ rest.bytes.take more = _ ++ (script.drop count).take (0 + more)
    rw [kept.1, Nat.zero_add]
  | openOutputFails | writeFails | readFails | reap | waitFails | expire | dropOpen =>
    exact (congrArg Buffer.bytes (held_closeEnds before)).trans (List.append_nil _).symm
  | announce | openOutput | abandonInput | closeInput | read | readEnd | kill | bury | dropDecided
  | dropStopping =>
    exact (List.append_nil _).symm

/-- A step on the other side takes from the front of the pipe what it reads. -/
theorem held_does {deed : Deed} (does : Does before deed after) :
    before.taken (.target deed) ++ after.input.held.bytes = before.input.held.bytes := by
  cases does with
  | read count => exact List.take_append_drop count _
  | write | shareInput | shareOutput | closeInput | closeOutput | exit => rfl

/-- What was read and what the pipe holds is the part of the script that was accepted. -/
theorem delivered_append_held
    (played : (start executable script timeout inputCapacity outputCapacity).play? actions =
      some reached) :
    (start executable script timeout inputCapacity outputCapacity).delivered actions ++
      reached.input.held.bytes = script.take (accepted actions) := by
  induction actions using List.reverseRecOn generalizing reached with
  | nil =>
    cases played
    rfl
  | append_singleton earlier action inductionHypothesis =>
    obtain ⟨before, playedBefore, acted⟩ := (play?_concat_eq_some_iff earlier action).mp played
    have kept := inductionHypothesis playedBefore
    rw [delivered_concat action playedBefore, accepted_concat, List.append_assoc]
    cases action with
    | harness move =>
      rw [held_moves (scriptKept_play playedBefore) (moves_of_move? acted), List.take_add, ← kept]
      show _ ++ ([] ++ (_ ++ _)) = _
      rw [List.nil_append, List.append_assoc]
    | target deed =>
      rw [held_does (deed?_eq_some_iff.mp acted), kept]
      rfl

/-- Whether the harness has its end of the input as long as it feeds the script. -/
def IsAttached (exchange : Exchange) : Prop :=
  exchange.input.writers = match exchange.feed with
    | .writing _ => 1
    | .closed _ => 0

/-- A step of the harness that is no failure closes its end of the input only with the feed. -/
theorem isAttached_moves {move : Move} (regular : Encounter.isRegular move = true)
    (kept : IsAttached before) (moves : Moves before move after) : IsAttached after := by
  cases moves with
  | write count rest phase feed =>
    rw [IsAttached, feed] at kept
    exact kept
  | abandonInput rest phase feed | closeInput rest phase feed =>
    rw [IsAttached, feed] at kept
    dsimp only at kept
    show before.input.writers - 1 = 0
    rw [kept]
  | reap early status phase feed =>
    rw [IsAttached, feed] at kept
    unfold IsAttached decide closeEnds report
    dsimp only
    rw [feed]
    exact kept
  | announce | openOutput | read | readEnd | kill | bury => exact kept
  | openOutputFails | writeFails | readFails | waitFails | expire | dropOpen | dropDecided
  | dropStopping =>
    cases regular

theorem isAttached_does {deed : Deed} (kept : IsAttached before) (does : Does before deed after) :
    IsAttached after := by
  cases does with
  | read | write | shareInput | shareOutput | closeInput | closeOutput | exit => exact kept

/-- Unless it is spoiled, a run keeps its end of the input as long as it feeds the script. -/
theorem isSpoiled_or_isAttached_play
    (played : (start executable script timeout inputCapacity outputCapacity).play? actions =
      some reached) :
    reached.IsSpoiled ∨ reached.IsAttached := by
  refine play?_induction (motive := fun _ reached => reached.IsSpoiled ∨ reached.IsAttached)
    ?_ ?_ played
  · exact .inr rfl
  intro earlier before action after kept acted
  rcases kept with spoiled | attached
  · exact .inl (isSpoiled_act spoiled acted)
  cases action with
  | harness move =>
    cases regular : Encounter.isRegular move with
    | true => exact .inr (isAttached_moves regular attached (moves_of_move? acted))
    | false => exact .inl (isSpoiled_of_moves regular (moves_of_move? acted))
  | target deed => exact .inr (isAttached_does attached (deed?_eq_some_iff.mp acted))

/-- When the harness has closed its end in a run that is not spoiled, all of the script was
accepted, or nobody is left to read the rest. -/
theorem accepted_of_closed
    (played : (start executable script timeout inputCapacity outputCapacity).play? actions =
      some reached)
    (sound : ¬ reached.IsSpoiled) (closed : reached.input.writers = 0) :
    (reached.feed = .closed false ∧ accepted actions = script.length) ∨
      (reached.feed = .closed true ∧ accepted actions < script.length ∧
        reached.input.broken = true) := by
  have attached := (isSpoiled_or_isAttached_play played).resolve_left sound
  have kept := scriptKept_play played
  rw [IsAttached, closed] at attached
  unfold ScriptKept at kept
  split at kept
  · rename_i rest feed
    rw [feed] at attached
    cases attached
  · rename_i feed
    exact .inl ⟨feed, kept⟩
  · rename_i feed
    exact .inr ⟨feed, kept⟩

end Exchange

namespace Harness

open Exchange (Action accepted)

/-- The exchange of a harness, right after the target was spawned, with pipes of some capacities. -/
def opened (harness : Harness) (inputCapacity outputCapacity : Nat) : Exchange :=
  .start harness.job.executable harness.job.script harness.job.timeout inputCapacity outputCapacity

/-- At any moment of a run of any suite, what the readers of the script have got is the beginning of
the script of the suite, and the pipe holds what comes next, up to the last byte accepted. As long
as the deadline has not fired, no error has ended the exchange and the run was not dropped, the
harness has closed its end only if all of the script was accepted, or if nobody is left to read the
rest; so what a reader that sees the end has got is the whole script. -/
theorem script_arrives_intact (harness : Harness) (inputCapacity outputCapacity : Nat)
    (actions : List Action) (reached : Exchange)
    (played : (harness.opened inputCapacity outputCapacity).play? actions = some reached) :
    let script := Bytes.ofString (Script.compose harness.suite).render
    let delivered := (harness.opened inputCapacity outputCapacity).delivered actions
    delivered <+: script ∧
    delivered ++ reached.input.held.bytes = script.take (accepted actions) ∧
    (¬ reached.IsSpoiled →
      (reached.input.writers = 0 →
        (reached.feed = .closed false ∧ accepted actions = script.length) ∨
        (reached.feed = .closed true ∧ accepted actions < script.length ∧
          reached.input.broken = true)) ∧
      (reached.input.atEnd = true → reached.input.broken = false → delivered = script)) := by
  intro script delivered
  have books : delivered ++ reached.input.held.bytes = script.take (accepted actions) :=
    Exchange.delivered_append_held played
  have closes := Exchange.accepted_of_closed played
  refine ⟨?_, books, fun sound => ⟨closes sound, fun atEnd hasReader => ?_⟩⟩
  · have begins : delivered <+: script.take (accepted actions) := ⟨_, books⟩
    exact begins.trans (List.take_prefix _ script)
  · rw [Channel.atEnd, Bool.and_eq_true, beq_iff_eq] at atEnd
    have whole : accepted actions = script.length := by
      rcases closes sound atEnd.2 with ⟨_, whole⟩ | ⟨_, _, broken⟩
      · exact whole
      · cases hasReader.symm.trans broken
    rw [Buffer.bytes_eq_nil atEnd.1, List.append_nil, whole, List.take_length] at books
    exact books

/-- A harness with two cases, of which the script has 44 bytes. -/
def twoCases : Harness := ⟨[], ⟨[⟨"true"⟩, ⟨"exit"⟩]⟩, ⟨1000⟩⟩

/-- A reader takes in a script in two pieces. It has the first before the second is written, and
sees the end after the second. -/
def twoPieces : List Action :=
  [.harness (.announce 7), .harness .openOutput, .harness (.write 20), .target (.read 5),
    .harness (.write 24), .harness .closeInput, .target (.read 39)]

theorem script_arrives_intact_twoPieces :
    ∃ middle reached, (twoCases.opened 39 1).play? (twoPieces.take 4) = some middle ∧
      (twoCases.opened 39 1).play? twoPieces = some reached ∧
      (twoCases.opened 39 1).delivered (twoPieces.take 4) <+:
        Bytes.ofString (Script.compose twoCases.suite).render ∧
      middle.input.held.size = 15 ∧ ¬ reached.IsSpoiled ∧ reached.input.atEnd = true ∧
      reached.input.broken = false ∧
      (twoCases.opened 39 1).delivered twoPieces =
        Bytes.ofString (Script.compose twoCases.suite).render := by
  obtain ⟨middle, reached, ranFirst, ran, left, exchanging, atEnd, hasReader⟩ :
      ∃ middle reached, (twoCases.opened 39 1).play? (twoPieces.take 4) = some middle ∧
        (twoCases.opened 39 1).play? twoPieces = some reached ∧
        middle.input.held.size = 15 ∧ reached.phase = .exchanging ∧
        reached.input.atEnd = true ∧ reached.input.broken = false :=
    ⟨_, _, rfl, rfl, rfl, rfl, rfl, rfl⟩
  have sound : ¬ reached.IsSpoiled := Exchange.not_isSpoiled_of_isOpen (exchanging ▸ trivial)
  have early := script_arrives_intact twoCases 39 1 (twoPieces.take 4) middle ranFirst
  have late := script_arrives_intact twoCases 39 1 twoPieces reached ran
  exact ⟨middle, reached, ranFirst, ran, early.1, left, sound, atEnd, hasReader,
    (late.2.2 sound).2 atEnd hasReader⟩

end Harness

end ShellSmoke
