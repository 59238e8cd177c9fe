/-
This file follows a stream through texts that are written on it one after another. It says of each
text which calls are made: one more just as long as the answers so far let the writing go on and
have not taken the whole text. So a text costs at most one call more than there are answers, and the
next text meets the answers that are left. From that come the bytes that the stream gains by a text
that it refuses, and all that a stream gains which only hesitates. A flush follows a text that was
accepted in full, and no other, and is called once whatever it answers.
-/

import Mathlib.Algebra.GroupWithZero.Nat
import Mathlib.Data.List.Forall2
import ShellSmoke.Proofs.Harness

namespace ShellSmoke

/-! ### The calls of one text -/

/-- How many bytes answers take together, as far as they let the writing go on. -/
def takenBy (answers : List WriteAnswer) : Nat := (answers.filterMap WriteAnswer.taken?).sum

/-- Whether another call is to be made after the calls so far: their answers let the writing go on,
and together they have not taken all the bytes. -/
def GoesOn (answers : List WriteAnswer) (size calls : Nat) : Prop :=
  calls ≤ answers.length ∧ (∀ answer ∈ answers.take calls, answer.taken?.isSome) ∧
    takenBy (answers.take calls) < size

theorem takenBy_cons (answer : WriteAnswer) (answers : List WriteAnswer) :
    takenBy (answer :: answers) = answer.taken?.getD 0 + takenBy answers := by
  unfold takenBy
  rw [List.filterMap_cons]
  cases answer.taken? with
  | none => exact (Nat.zero_add _).symm
  | some taken => exact List.sum_cons

section Calls

variable {answer : WriteAnswer} {answers : List WriteAnswer} {size taken calls : Nat}

theorem goesOn_zero : GoesOn answers size 0 ↔ 0 < size :=
  ⟨fun goesOn => goesOn.2.2, fun some => ⟨Nat.zero_le _, nofun, some⟩⟩

theorem goesOn_succ_of_taken (goes : answer.taken? = some taken) :
    GoesOn (answer :: answers) size (calls + 1) ↔ GoesOn answers (size - taken) calls := by
  unfold GoesOn
  rw [List.take_succ_cons, List.forall_mem_cons, takenBy_cons, goes, List.length_cons]
  refine and_congr (by omega) (and_congr (and_iff_right rfl) ?_)
  rw [Option.getD_some]
  omega

theorem not_goesOn_succ (ends : answer.taken? = none) :
    ¬ GoesOn (answer :: answers) size (calls + 1) := by
  rintro ⟨_, goOn, _⟩
  rw [List.take_succ_cons, List.forall_mem_cons, ends] at goOn
  cases goOn.1

/-- A single call is made if its answer ends the writing. -/
theorem lt_one_iff_goesOn (ends : answer.taken? = none) (some : 0 < size) :
    calls < 1 ↔ GoesOn (answer :: answers) size calls := by
  cases calls with
  | zero => exact iff_of_true Nat.one_pos (goesOn_zero.mpr some)
  | succ calls => exact iff_of_false (by omega) (not_goesOn_succ ends)

end Calls

theorem length_pos_of_not_isEmpty {offered : Bytes} (some : ¬ offered.isEmpty = true) :
    0 < offered.length :=
  List.length_pos_iff.mpr fun none => some (List.isEmpty_iff.mpr none)

/-- Just those calls are made that are to be made. -/
theorem lt_calls_offerAll_iff (answers : List WriteAnswer) (offered : Bytes) (call : Nat) :
    call < (offerAll answers offered).calls ↔ GoesOn answers offered.length call := by
  fun_induction offerAll answers offered generalizing call with
  | case1 offered =>
    cases offered with
    | nil => exact iff_of_false (Nat.not_lt_zero _) fun goesOn => Nat.not_lt_zero _ goesOn.2.2
    | cons byte rest =>
      show call < 1 ↔ _
      exact ⟨fun first => Nat.lt_one_iff.mp first ▸ goesOn_zero.mpr (Nat.succ_pos _),
        fun goesOn => Nat.lt_succ_of_le goesOn.1⟩
  | case2 offered answer later empty =>
    rw [List.isEmpty_iff.mp empty]
    exact iff_of_false (Nat.not_lt_zero _) fun goesOn => Nat.not_lt_zero _ goesOn.2.2
  | case3 later offered notEmpty =>
    exact lt_one_iff_goesOn rfl (length_pos_of_not_isEmpty notEmpty)
  | case4 later offered notEmpty =>
    exact lt_one_iff_goesOn rfl (length_pos_of_not_isEmpty notEmpty)
  | case5 later offered notEmpty limit positive inductionHypothesis =>
    have goes : (WriteAnswer.accepts limit).taken? = some limit := if_neg positive
    show call < (offerAll later (offered.drop limit)).calls + 1 ↔ _
    cases call with
    | zero =>
      exact iff_of_true (Nat.succ_pos _) (goesOn_zero.mpr (length_pos_of_not_isEmpty notEmpty))
    | succ call =>
      rw [goesOn_succ_of_taken goes, Nat.succ_lt_succ_iff, inductionHypothesis, List.length_drop]
  | case6 later offered notEmpty failure interrupted inductionHypothesis =>
    have goes : (WriteAnswer.fails failure).taken? = some 0 := if_pos interrupted
    show call < (offerAll later offered).calls + 1 ↔ _
    cases call with
    | zero =>
      exact iff_of_true (Nat.succ_pos _) (goesOn_zero.mpr (length_pos_of_not_isEmpty notEmpty))
    | succ call =>
      rw [goesOn_succ_of_taken goes, Nat.succ_lt_succ_iff, inductionHypothesis, Nat.sub_zero]
  | case7 later offered notEmpty failure fatal =>
    exact lt_one_iff_goesOn (if_neg fatal) (length_pos_of_not_isEmpty notEmpty)

/-- Each call uses up the next answer. -/
theorem later_offerAll (answers : List WriteAnswer) (offered : Bytes) :
    (offerAll answers offered).later = answers.drop (offerAll answers offered).calls := by
  fun_induction offerAll answers offered with
  | case1 offered => exact List.drop_nil.symm
  | case5 later offered notEmpty limit positive inductionHypothesis => exact inductionHypothesis
  | case6 later offered notEmpty failure interrupted inductionHypothesis =>
    exact inductionHypothesis
  | case2 | case3 | case4 | case7 => rfl

/-- What is accepted of bytes that are refused is what the answers took before the fatal one. -/
theorem accepted_of_error {answers : List WriteAnswer} {offered : Bytes} {failure : IoError}
    (failed : (offerAll answers offered).result = .error failure) :
    (offerAll answers offered).accepted =
      offered.take (takenBy (answers.take (offerAll answers offered).calls)) := by
  fun_induction offerAll answers offered with
  | case1 | case2 | case3 => cases failed
  | case4 later offered notEmpty => rfl
  | case5 later offered notEmpty limit positive inductionHypothesis =>
    have goes : (WriteAnswer.accepts limit).taken? = some limit := if_neg positive
    show offered.take limit ++ (offerAll later (offered.drop limit)).accepted =
      offered.take (takenBy (.accepts limit :: later.take (offerAll later _).calls))
    rw [inductionHypothesis failed, takenBy_cons, goes, Option.getD_some, List.take_add]
  | case6 later offered notEmpty other interrupted inductionHypothesis =>
    have goes : (WriteAnswer.fails other).taken? = some 0 := if_pos interrupted
    show (offerAll later offered).accepted =
      offered.take (takenBy (.fails other :: later.take (offerAll later offered).calls))
    rw [inductionHypothesis failed, takenBy_cons, goes, Option.getD_some, Nat.zero_add]
  | case7 later offered notEmpty other fatal =>
    have ends : (WriteAnswer.fails other).taken? = none := if_neg fatal
    show [] = offered.take (takenBy [.fails other])
    rw [takenBy_cons, ends]
    rfl

/-- An attempt succeeds exactly if the answers do not refuse what was offered. -/
theorem offerAll_ok_iff_not_refuses (answers : List WriteAnswer) (offered : Bytes) :
    (offerAll answers offered).result = .ok () ↔
      ∀ failure, ¬ Refuses answers offered.length failure := by
  simp only [← offerAll_error_iff]
  cases (offerAll answers offered).result with
  | ok => exact iff_of_true rfl nofun
  | error failure => exact iff_of_false nofun fun none => none failure rfl

/-! ### One text -/

namespace Sink

/-- What writing bytes on a stream and flushing it comes to. -/
structure Receives (bytes : Bytes) (before : Sink) (status : Except ExitError Unit) (after : Sink) :
    Prop where
  /-- The calls are just those that are to be made, and each uses up an answer. The stream gains a
  beginning of the bytes; if that is not all of them it is as much as the answers took. -/
  writes : ∃ calls part, (∀ call, call < calls ↔ GoesOn before.writeAnswers bytes.length call) ∧
    after.writes = before.writes + calls ∧ after.writeAnswers = before.writeAnswers.drop calls ∧
    part <+: bytes ∧ after.accepted = before.accepted ++ part ∧
    (part ≠ bytes → part = bytes.take (takenBy (before.writeAnswers.take calls)))
  whole_iff : after.accepted = before.accepted ++ bytes ↔
    ∀ failure, ¬ Refuses before.writeAnswers bytes.length failure
  /-- Where there is nothing to write no call is made, but the flush is. -/
  nothing : bytes = [] → after.writes = before.writes ∧ after.flushes = before.flushes + 1
  /-- One flush follows bytes that were accepted in full, and none follows others. -/
  flushes : ∃ calls, calls = (if after.accepted = before.accepted ++ bytes then 1 else 0) ∧
    after.flushes = before.flushes + calls ∧ after.flushAnswers = before.flushAnswers.drop calls
  ok_iff : status = .ok () ↔ ShownOn bytes before after
  error_iff : ∀ exit, status = .error exit ↔
    ∃ failure, before.FailsWith bytes failure ∧ exit = ⟨1, "error: " ++ failure.text⟩
  /-- A call that takes none of the bytes that are left ends the writing. -/
  zero : ∀ earlier later, before.writeAnswers = earlier ++ .accepts 0 :: later →
    (∀ answer ∈ earlier, answer.taken?.isSome) → takenBy earlier < bytes.length →
    status = .error ⟨1, "error: failed to write whole buffer"⟩

/-- The attempt to write a transcript moves the stream on, and a flush follows if it succeeds. -/
theorem writeTranscript_eq (sink : Sink) (text : String) :
    let attempt := offerAll sink.writeAnswers (Bytes.ofString text)
    let calls := if attempt.accepted = Bytes.ofString text then 1 else 0
    (sink.writeTranscript text).2 = ⟨sink.accepted ++ attempt.accepted, sink.writes + attempt.calls,
      sink.flushes + calls, attempt.later, sink.flushAnswers.drop calls⟩ := by
  intro attempt calls
  have succeeds := offerAll_ok_iff sink.writeAnswers (Bytes.ofString text)
  unfold writeTranscript
  cases result : attempt.result with
  | error failure =>
    have notWhole : calls = 0 := if_neg fun whole => by cases result.symm.trans (succeeds.mpr whole)
    have written : sink.writeAll (Bytes.ofString text) = (.error failure, _) :=
      Prod.ext result rfl
    rw [written, notWhole]
    rfl
  | ok =>
    have whole : calls = 1 := if_pos (succeeds.mp result)
    have written : sink.writeAll (Bytes.ofString text) = (.ok (), _) := Prod.ext result rfl
    rw [written, whole]
    dsimp only
    have flushed := flush_eq (sink.writeAll (Bytes.ofString text)).2
    generalize (sink.writeAll (Bytes.ofString text)).2.flush = flush at flushed ⊢
    obtain ⟨status, last⟩ := flush
    cases status <;> exact flushed

/-- Writing a transcript comes to what it has to. -/
theorem receives_writeTranscript (sink : Sink) (text : String) :
    sink.Receives (Bytes.ofString text) (sink.writeTranscript text).1
      (sink.writeTranscript text).2 := by
  have state := sink.writeTranscript_eq text
  have writes := sink.writes_writeTranscript text
  generalize sink.writeTranscript text = written at state writes ⊢
  obtain ⟨status, after⟩ := written
  generalize Bytes.ofString text = bytes at state writes ⊢
  have outcome := writes.shownOn_or_failsWith
  have succeeds := offerAll_ok_iff sink.writeAnswers bytes
  have whole_iff : after.accepted = sink.accepted ++ bytes ↔
      (offerAll sink.writeAnswers bytes).accepted = bytes := by
    rw [show after = _ from state]
    exact List.append_right_inj sink.accepted
  have error_iff (exit : ExitError) : status = .error exit ↔
      ∃ failure, sink.FailsWith bytes failure ∧ exit = ⟨1, "error: " ++ failure.text⟩ := by
    rcases outcome with ⟨rfl, _, none⟩ | ⟨failure, rfl, _, only⟩
    · exact iff_of_false nofun fun ⟨failure, fails, _⟩ => none failure fails
    · simp only [only, exists_eq_left, Except.error.injEq]
      exact eq_comm
  constructor
  case writes =>
    refine ⟨_, _, lt_calls_offerAll_iff _ _, congrArg Sink.writes state,
      (congrArg Sink.writeAnswers state).trans (later_offerAll _ _), accepted_offerAll_isPrefix _ _,
      congrArg Sink.accepted state, fun part => ?_⟩
    cases result : (offerAll sink.writeAnswers bytes).result with
    | ok => exact absurd (succeeds.mp result) part
    | error failure => exact accepted_of_error result
  case whole_iff =>
    rw [whole_iff, ← succeeds]
    exact offerAll_ok_iff_not_refuses _ _
  case nothing =>
    rintro rfl
    have noPart := List.prefix_nil.mp (accepted_offerAll_isPrefix sink.writeAnswers [])
    have noCall : (offerAll sink.writeAnswers []).calls = 0 := Nat.eq_zero_of_not_pos fun call =>
      Nat.not_lt_zero _ ((lt_calls_offerAll_iff _ _ 0).mp call).2.2
    rw [writes.flushes, if_pos (whole_iff.mpr noPart)]
    refine ⟨(congrArg Sink.writes state).trans ?_, rfl⟩
    rw [noCall, Nat.add_zero]
  case flushes =>
    refine ⟨_, rfl, writes.flushes, ?_⟩
    simp only [whole_iff]
    exact congrArg Sink.flushAnswers state
  case ok_iff =>
    rcases outcome with ⟨rfl, shown, _⟩ | ⟨failure, rfl, notShown, _⟩
    · exact iff_of_true rfl shown
    · exact iff_of_false nofun notShown
  case error_iff => exact error_iff
  case zero =>
    intro earlier later answers goOn short
    exact (error_iff _).mpr
      ⟨.nothingAccepted, .inl ⟨earlier, .accepts 0, later, answers, goOn, short, rfl⟩, rfl⟩

/-! ### Texts one after another -/

/-- Writes texts one after another, whatever each comes to. -/
def writeTexts (sink : Sink) : List String → List (Except ExitError Unit) × Sink
  | [] => ([], sink)
  | text :: texts =>
    let (status, between) := sink.writeTranscript text
    let (statuses, last) := between.writeTexts texts
    (status :: statuses, last)

/-- Whether each of some texts on one stream comes to what it has to, on the stream as the texts
before it have left it. -/
inductive ReceivesAll : List String → Sink → List (Except ExitError Unit) → Sink → Prop where
  | none (sink : Sink) : ReceivesAll [] sink [] sink
  | next {text : String} {texts : List String} {before between last : Sink}
    {status : Except ExitError Unit} {statuses : List (Except ExitError Unit)}
    (first : before.Receives (Bytes.ofString text) status between)
    (later : ReceivesAll texts between statuses last) :
    ReceivesAll (text :: texts) before (status :: statuses) last

variable {text : String} {texts : List String} {before after last : Sink}
variable {status : Except ExitError Unit} {statuses : List (Except ExitError Unit)}

theorem receivesAll_writeTexts (sink : Sink) (texts : List String) :
    ReceivesAll texts sink (sink.writeTexts texts).1 (sink.writeTexts texts).2 := by
  induction texts generalizing sink with
  | nil => exact .none sink
  | cons text texts inductionHypothesis =>
    exact .next (sink.receives_writeTranscript text) (inductionHypothesis _)

/-- A text costs as many calls as it uses up answers, and one more at most. -/
theorem Receives.writes_le {bytes : Bytes} (receives : before.Receives bytes status after) :
    after.writes + after.writeAnswers.length ≤ before.writes + before.writeAnswers.length + 1 := by
  obtain ⟨calls, part, made, writes, answers, _⟩ := receives.writes
  have bound : calls ≤ before.writeAnswers.length + 1 := Nat.le_of_not_lt fun more =>
    Nat.not_succ_le_self _ ((made (before.writeAnswers.length + 1)).mp more).1
  rw [writes, answers, List.length_drop]
  omega

theorem ReceivesAll.writes_le (all : ReceivesAll texts before statuses last) :
    last.writes + last.writeAnswers.length ≤
      before.writes + before.writeAnswers.length + texts.length := by
  induction all with
  | none sink => exact Nat.le_refl _
  | next first later inductionHypothesis =>
    have one := first.writes_le
    rw [List.length_cons]
    omega

/-- The stream gains a beginning of each text, in their order. -/
theorem ReceivesAll.gains (all : ReceivesAll texts before statuses last) :
    ∃ parts, List.Forall₂ (fun part text => part <+: Bytes.ofString text) parts texts ∧
      last.accepted = before.accepted ++ parts.flatten := by
  induction all with
  | none sink => exact ⟨[], .nil, (List.append_nil _).symm⟩
  | next first later inductionHypothesis =>
    obtain ⟨_, part, _, _, _, isPrefix, accepted, _⟩ := first.writes
    obtain ⟨parts, prefixes, gained⟩ := inductionHypothesis
    refine ⟨part :: parts, .cons isPrefix prefixes, ?_⟩
    rw [gained, accepted, List.flatten_cons, List.append_assoc]

/-! ### Streams that only hesitate -/

/-- Whether a stream refuses no bytes: it takes them in pieces, and may ask for a call to be
repeated. Its flushes may fail. -/
def OnlyHesitates (sink : Sink) : Prop := ∀ answer ∈ sink.writeAnswers, answer.fatal? = none

/-- The result of a text that was accepted in full, by the answer to its flush. -/
def resultOf : FlushAnswer → Except ExitError Unit
  | .succeeds => .ok ()
  | .fails failure => .error ⟨1, "error: " ++ failure.text⟩

theorem Receives.onlyHesitates {bytes : Bytes} (receives : before.Receives bytes status after)
    (hesitates : before.OnlyHesitates) : after.OnlyHesitates := by
  obtain ⟨calls, _, _, _, answers, _⟩ := receives.writes
  intro answer member
  rw [answers] at member
  exact hesitates answer (List.mem_of_mem_drop member)

/-- A stream that only hesitates accepts a text in full, and the flush alone decides. -/
theorem Receives.whole {bytes : Bytes} (receives : before.Receives bytes status after)
    (hesitates : before.OnlyHesitates) :
    after.accepted = before.accepted ++ bytes ∧ after.flushes = before.flushes + 1 ∧
      after.flushAnswers = before.flushAnswers.drop 1 ∧
      status = resultOf (before.flushAnswers.getD 0 .succeeds) := by
  have takes : ∀ failure, ¬ Refuses before.writeAnswers bytes.length failure := fun failure =>
    not_refuses_of_forall hesitates _ failure
  have whole := receives.whole_iff.mpr takes
  obtain ⟨calls, flushed, flushes, answers⟩ := receives.flushes
  rw [if_pos whole] at flushed
  subst flushed
  refine ⟨whole, flushes, answers, ?_⟩
  rw [List.getD_eq_getElem?_getD, ← List.head?_eq_getElem?]
  cases answered : before.flushAnswers.head? with
  | none =>
    refine receives.ok_iff.mpr ⟨whole, flushes, fun failure fails => ?_⟩
    cases answered.symm.trans fails
  | some answer =>
    cases answer with
    | succeeds =>
      refine receives.ok_iff.mpr ⟨whole, flushes, fun failure fails => ?_⟩
      cases answered.symm.trans fails
    | fails failure => exact (receives.error_iff _).mpr ⟨failure, .inr ⟨takes, answered⟩, rfl⟩

theorem ReceivesAll.whole (all : ReceivesAll texts before statuses last)
    (hesitates : before.OnlyHesitates) :
    last.accepted = before.accepted ++ texts.flatMap Bytes.ofString ∧
      last.flushes = before.flushes + texts.length ∧
      statuses = (List.range texts.length).map fun place =>
        resultOf (before.flushAnswers.getD place .succeeds) := by
  induction all with
  | none sink => exact ⟨(List.append_nil _).symm, rfl, rfl⟩
  | @next text texts before between last status statuses first later inductionHypothesis =>
    obtain ⟨accepted, flushes, answers, result⟩ := first.whole hesitates
    obtain ⟨laterAccepted, laterFlushes, results⟩ :=
      inductionHypothesis (first.onlyHesitates hesitates)
    refine ⟨?_, ?_, ?_⟩
    · rw [laterAccepted, accepted, List.flatMap_cons, List.append_assoc]
    · rw [laterFlushes, flushes, List.length_cons]
      omega
    · have shifted (place : Nat) : between.flushAnswers.getD place .succeeds =
          before.flushAnswers.getD (place + 1) .succeeds := by
        rw [answers, List.getD_eq_getElem?_getD, List.getD_eq_getElem?_getD, List.getElem?_drop,
          Nat.add_comm]
      rw [results, result, List.length_cons, List.range_succ_eq_map, List.map_cons, List.map_map]
      simp only [shifted, Function.comp_def, Nat.succ_eq_add_one]

/-- Texts one after another on one stream come each to what they have to. Together they cost no more
calls than there are answers and texts, and the stream gains a beginning of each text in their
order. A stream that only hesitates gains all of them and is flushed once for each, and the answer
to its flush alone decides on a text. -/
theorem texts_fare_as_answered (sink : Sink) (texts : List String) :
    let last := (sink.writeTexts texts).2
    ReceivesAll texts sink (sink.writeTexts texts).1 last ∧
    last.writes ≤ sink.writes + sink.writeAnswers.length + texts.length ∧
    (∃ parts, List.Forall₂ (fun part text => part <+: Bytes.ofString text) parts texts ∧
      last.accepted = sink.accepted ++ parts.flatten) ∧
    (sink.OnlyHesitates →
      last.accepted = sink.accepted ++ texts.flatMap Bytes.ofString ∧
      last.flushes = sink.flushes + texts.length ∧
      (sink.writeTexts texts).1 = (List.range texts.length).map fun place =>
        resultOf (sink.flushAnswers.getD place .succeeds)) := by
  intro last
  have all := receivesAll_writeTexts sink texts
  exact ⟨all, Nat.le_trans (Nat.le_add_right _ _) all.writes_le, all.gains, all.whole⟩

/-- A stream that takes two bytes, interrupts a call and then takes none, and of which the first
flush is interrupted. -/
def stopping : Sink :=
  { writeAnswers := [.accepts 2, .fails (.plain .interrupted), .accepts 0, .accepts 1]
    flushAnswers := [.fails (.plain .interrupted)] }

/-- A stream that takes a byte, interrupts a call and takes another byte. -/
def hesitating : Sink :=
  { writeAnswers := [.accepts 1, .fails (.plain .interrupted), .accepts 1] }

/-- The first text breaks off, the flush after the second is not repeated, and the third is empty. A
stream that only hesitates gains all of them. -/
theorem texts_fare_as_answered_stopping :
    let texts := ["abc", "de", ""]
    (stopping.writeTexts texts).1 = [.error ⟨1, "error: failed to write whole buffer"⟩,
      .error ⟨1, "error: operation interrupted"⟩, .ok ()] ∧
    (stopping.writeTexts texts).2 = ⟨Bytes.ofString "abde", 5, 2, [], []⟩ ∧
    ReceivesAll texts stopping (stopping.writeTexts texts).1 (stopping.writeTexts texts).2 ∧
    hesitating.OnlyHesitates ∧
    (hesitating.writeTexts texts).2.accepted = texts.flatMap Bytes.ofString ∧
    (hesitating.writeTexts texts).1 = [.ok (), .ok (), .ok ()] := by
  intro texts
  have hesitates : hesitating.OnlyHesitates := by
    unfold OnlyHesitates
    decide
  obtain ⟨_, _, _, whole⟩ := texts_fare_as_answered hesitating texts
  exact ⟨rfl, rfl, (texts_fare_as_answered stopping texts).1, hesitates, (whole hesitates).1,
    (whole hesitates).2.2⟩

end Sink

end ShellSmoke
