/-
This file says what becomes of bytes that are offered to a stream until all are accepted, without
the loop that offers them. An answer either lets the writing go on or ends it, and the bytes are
refused if an answer that is fatal comes before the earlier answers have taken them all. The stream
always gains a beginning of the bytes; it gains all of them exactly if they are not refused, and
then, and only then, it is flushed, once.
-/

import ShellSmoke.Sink

namespace ShellSmoke

/-! ### What an answer means -/

namespace WriteAnswer

/-- How many bytes an answer takes at most if the writing goes on after it: an interrupted call
takes none and is repeated. -/
def taken? : WriteAnswer → Option Nat
  | accepts limit => if limit = 0 then none else some limit
  | acceptsAll => none
  | fails failure => if failure.kind = .interrupted then some 0 else none

/-- The failure with which an answer ends the writing. -/
def fatal? : WriteAnswer → Option IoError
  | accepts limit => if limit = 0 then some .nothingAccepted else none
  | acceptsAll => none
  | fails failure => if failure.kind = .interrupted then none else some failure

end WriteAnswer

/-- Whether a stream that gives these answers refuses so many bytes with a failure: all answers
before a fatal one let the writing go on, and together they do not take all the bytes. -/
def Refuses (answers : List WriteAnswer) (size : Nat) (failure : IoError) : Prop :=
  ∃ earlier answer later, answers = earlier ++ answer :: later ∧
    (∀ other ∈ earlier, other.taken?.isSome) ∧
    (earlier.filterMap WriteAnswer.taken?).foldr (· + ·) 0 < size ∧ answer.fatal? = some failure

/-! ### Refusals, answer by answer -/

section Refusals

variable {answer : WriteAnswer} {answers : List WriteAnswer} {size taken : Nat}
variable {failure : IoError}

theorem not_refuses_nil : ¬ Refuses [] size failure := by
  rintro ⟨earlier, answer, later, split, _⟩
  have nonempty := List.append_ne_nil_of_right_ne_nil earlier (List.cons_ne_nil answer later)
  exact absurd split.symm nonempty

theorem not_refuses_zero : ¬ Refuses answers 0 failure := by
  rintro ⟨_, _, _, _, _, small, _⟩
  exact Nat.not_lt_zero _ small

/-- Answers of which none is fatal refuse nothing. -/
theorem not_refuses_of_forall (notFatal : ∀ answer ∈ answers, answer.fatal? = none) (size : Nat)
    (failure : IoError) : ¬ Refuses answers size failure := by
  rintro ⟨earlier, answer, later, rfl, _, _, fatal⟩
  cases fatal.symm.trans (notFatal answer (List.mem_append_right _ List.mem_cons_self))

/-- An answer that takes some of the bytes leaves the refusal of the rest to the later answers. -/
theorem refuses_cons_of_taken (goesOn : answer.taken? = some taken)
    (notFatal : answer.fatal? = none) :
    Refuses (answer :: answers) size failure ↔ Refuses answers (size - taken) failure := by
  constructor
  · rintro ⟨earlier, last, later, split, goOn, small, fatal⟩
    cases earlier with
    | nil =>
      obtain ⟨rfl, rfl⟩ := List.cons.inj split
      rw [notFatal] at fatal
      cases fatal
    | cons first earlier =>
      obtain ⟨rfl, rfl⟩ := List.cons.inj split
      rw [List.filterMap_cons, goesOn, List.foldr_cons] at small
      exact ⟨earlier, last, later, rfl,
        fun other member => goOn other (List.mem_cons_of_mem _ member), by omega, fatal⟩
  · rintro ⟨earlier, last, later, rfl, goOn, small, fatal⟩
    refine ⟨answer :: earlier, last, later, rfl, ?_, ?_, fatal⟩
    · intro other member
      rcases List.mem_cons.mp member with rfl | member
      · rw [goesOn]
        rfl
      · exact goOn other member
    · rw [List.filterMap_cons, goesOn, List.foldr_cons]
      omega

/-- An answer that ends the writing decides whether the bytes are refused. -/
theorem refuses_cons_of_not_taken (ends : answer.taken? = none) :
    Refuses (answer :: answers) size failure ↔ 0 < size ∧ answer.fatal? = some failure := by
  constructor
  · rintro ⟨earlier, last, later, split, goOn, small, fatal⟩
    cases earlier with
    | nil =>
      obtain ⟨rfl, rfl⟩ := List.cons.inj split
      exact ⟨small, fatal⟩
    | cons first earlier =>
      obtain ⟨rfl, rfl⟩ := List.cons.inj split
      have goes := goOn answer List.mem_cons_self
      rw [ends] at goes
      cases goes
  · rintro ⟨positive, fatal⟩
    exact ⟨[], answer, answers, rfl, fun _ member => (nomatch member), positive, fatal⟩

end Refusals

/-! ### Offering bytes until all are accepted -/

/-- What was accepted is a beginning of what was offered. -/
theorem accepted_offerAll_isPrefix (answers : List WriteAnswer) (offered : Bytes) :
    (offerAll answers offered).accepted <+: offered := by
  fun_induction offerAll answers offered with
  | case1 offered => exact List.prefix_rfl
  | case2 offered answer later empty => exact List.nil_prefix
  | case3 later offered notEmpty => exact List.prefix_rfl
  | case4 later offered notEmpty => exact List.nil_prefix
  | case5 later offered notEmpty limit positive inductionHypothesis =>
    obtain ⟨rest, joined⟩ := inductionHypothesis
    refine ⟨rest, ?_⟩
    show offered.take limit ++ (offerAll later (offered.drop limit)).accepted ++ rest = offered
    rw [List.append_assoc, joined, List.take_append_drop]
  | case6 later offered notEmpty failure interrupted inductionHypothesis =>
    exact inductionHypothesis
  | case7 later offered notEmpty failure fatal => exact List.nil_prefix

/-- An attempt succeeds exactly if all that was offered was accepted. -/
theorem offerAll_ok_iff (answers : List WriteAnswer) (offered : Bytes) :
    (offerAll answers offered).result = .ok () ↔ (offerAll answers offered).accepted = offered := by
  fun_induction offerAll answers offered with
  | case1 offered => exact iff_of_true rfl rfl
  | case2 offered answer later empty =>
    exact iff_of_true rfl (List.isEmpty_iff.mp empty).symm
  | case3 later offered notEmpty => exact iff_of_true rfl rfl
  | case4 later offered notEmpty =>
    exact iff_of_false nofun fun same => notEmpty (List.isEmpty_iff.mpr same.symm)
  | case5 later offered notEmpty limit positive inductionHypothesis =>
    show (offerAll later (offered.drop limit)).result = .ok () ↔
      offered.take limit ++ (offerAll later (offered.drop limit)).accepted = offered
    rw [inductionHypothesis]
    constructor
    · intro whole
      rw [whole, List.take_append_drop]
    · intro whole
      exact List.append_cancel_left (whole.trans (List.take_append_drop limit offered).symm)
  | case6 later offered notEmpty failure interrupted inductionHypothesis =>
    exact inductionHypothesis
  | case7 later offered notEmpty failure fatal =>
    exact iff_of_false nofun fun same => notEmpty (List.isEmpty_iff.mpr same.symm)

/-- An attempt fails exactly if the answers refuse what was offered. -/
theorem offerAll_error_iff (answers : List WriteAnswer) (offered : Bytes) (failure : IoError) :
    (offerAll answers offered).result = .error failure ↔
      Refuses answers offered.length failure := by
  fun_induction offerAll answers offered with
  | case1 offered => exact iff_of_false nofun not_refuses_nil
  | case2 offered answer later empty =>
    rw [List.isEmpty_iff.mp empty]
    exact iff_of_false nofun not_refuses_zero
  | case3 later offered notEmpty =>
    rw [refuses_cons_of_not_taken rfl]
    exact iff_of_false nofun fun refused => nomatch refused.2
  | case4 later offered notEmpty =>
    rw [refuses_cons_of_not_taken rfl, List.length_pos_iff, Except.error.injEq]
    exact (and_iff_right (mt List.isEmpty_iff.mpr notEmpty)).trans Option.some_inj |>.symm
  | case5 later offered notEmpty limit positive inductionHypothesis =>
    have goesOn : (WriteAnswer.accepts limit).taken? = some limit := if_neg positive
    have notFatal : (WriteAnswer.accepts limit).fatal? = none := if_neg positive
    show (offerAll later (offered.drop limit)).result = .error failure ↔ _
    rw [inductionHypothesis, List.length_drop, refuses_cons_of_taken goesOn notFatal]
  | case6 later offered notEmpty interruption interrupted inductionHypothesis =>
    have goesOn : (WriteAnswer.fails interruption).taken? = some 0 := if_pos interrupted
    have notFatal : (WriteAnswer.fails interruption).fatal? = none := if_pos interrupted
    show (offerAll later offered).result = .error failure ↔ _
    rw [inductionHypothesis, refuses_cons_of_taken goesOn notFatal, Nat.sub_zero]
  | case7 later offered notEmpty other fatal =>
    have ends : (WriteAnswer.fails other).taken? = none := if_neg fatal
    have lasts : (WriteAnswer.fails other).fatal? = some other := if_neg fatal
    rw [refuses_cons_of_not_taken ends, lasts, List.length_pos_iff, Except.error.injEq,
      Option.some_inj]
    exact (and_iff_right (mt List.isEmpty_iff.mpr notEmpty)).symm

/-- Bytes are refused with one failure at most. -/
theorem refuses_unique {answers : List WriteAnswer} {offered : Bytes} {failure other : IoError}
    (refuses : Refuses answers offered.length failure)
    (refusesOther : Refuses answers offered.length other) : other = failure := by
  have result := (offerAll_error_iff answers offered failure).mpr refuses
  have resultOther := (offerAll_error_iff answers offered other).mpr refusesOther
  exact Except.error.inj (resultOther.symm.trans result)

/-! ### Writing a transcript -/

namespace Sink

/-- The ways in which bytes can be written and flushed on a stream, with the result and the stream
afterwards. -/
inductive Writes (before : Sink) (bytes : Bytes) : Except ExitError Unit → Sink → Prop where
  /-- The bytes are refused; a beginning of them stays on the stream, which is not flushed. -/
  | refused (failure : IoError) (part : Bytes) (after : Sink)
    (refuses : Refuses before.writeAnswers bytes.length failure) (isPrefix : part <+: bytes)
    (proper : part ≠ bytes) (accepted : after.accepted = before.accepted ++ part)
    (flushes : after.flushes = before.flushes) :
    Writes before bytes (.error (.ofIoError failure)) after
  /-- All bytes are accepted, and the flush fails. -/
  | unflushed (failure : IoError) (after : Sink)
    (takes : ∀ other, ¬ Refuses before.writeAnswers bytes.length other)
    (flushFails : before.flushAnswers.head? = some (.fails failure))
    (accepted : after.accepted = before.accepted ++ bytes)
    (flushes : after.flushes = before.flushes + 1) :
    Writes before bytes (.error (.ofIoError failure)) after
  /-- All bytes are accepted, and the flush succeeds. -/
  | shown (after : Sink) (takes : ∀ other, ¬ Refuses before.writeAnswers bytes.length other)
    (flushes? : ∀ failure, before.flushAnswers.head? ≠ some (.fails failure))
    (accepted : after.accepted = before.accepted ++ bytes)
    (flushes : after.flushes = before.flushes + 1) :
    Writes before bytes (.ok ()) after

section Writes

variable {before after : Sink} {bytes : Bytes} {status : Except ExitError Unit}

theorem Writes.gains (writes : before.Writes bytes status after) :
    ∃ part, part <+: bytes ∧ after.accepted = before.accepted ++ part := by
  cases writes with
  | refused failure part after refuses isPrefix proper accepted => exact ⟨part, isPrefix, accepted⟩
  | unflushed failure after takes flushFails accepted => exact ⟨bytes, List.prefix_rfl, accepted⟩
  | shown after takes flushes? accepted => exact ⟨bytes, List.prefix_rfl, accepted⟩

/-- One flush follows bytes that were accepted in full, and none follows others. -/
theorem Writes.flushes (writes : before.Writes bytes status after) :
    after.flushes = before.flushes +
      if after.accepted = before.accepted ++ bytes then 1 else 0 := by
  cases writes with
  | refused failure part after refuses isPrefix proper accepted flushes =>
    rw [if_neg fun whole => proper (List.append_cancel_left (accepted.symm.trans whole)), flushes,
      Nat.add_zero]
  | unflushed failure after takes flushFails accepted flushes => rw [if_pos accepted, flushes]
  | shown after takes flushes? accepted flushes => rw [if_pos accepted, flushes]

end Writes

/-- A flush is called once, and its result is the next answer. -/
theorem flush_cases (sink : Sink) :
    (∃ failure, sink.flushAnswers.head? = some (.fails failure) ∧
        sink.flush.1 = .error failure) ∨
      ((∀ failure, sink.flushAnswers.head? ≠ some (.fails failure)) ∧ sink.flush.1 = .ok ()) := by
  unfold flush
  split
  · rename_i none
    rw [none]
    exact .inr ⟨nofun, rfl⟩
  · rename_i answer later answers
    rw [answers]
    cases answer with
    | succeeds => exact .inr ⟨nofun, rfl⟩
    | fails failure => exact .inl ⟨failure, rfl, rfl⟩

/-- A flush changes nothing but that it was called and answered. -/
theorem flush_eq (sink : Sink) : sink.flush.2 =
    { sink with flushes := sink.flushes + 1, flushAnswers := sink.flushAnswers.drop 1 } := by
  unfold flush
  split
  · rename_i none
    rw [none]
    rfl
  · rename_i answer later answers
    rw [answers]
    cases answer <;> rfl

/-- Writing a transcript goes in one of these ways. -/
theorem writes_writeTranscript (sink : Sink) (text : String) :
    sink.Writes (Bytes.ofString text) (sink.writeTranscript text).1
      (sink.writeTranscript text).2 := by
  unfold writeTranscript
  generalize Bytes.ofString text = bytes
  have result : (sink.writeAll bytes).1 = (offerAll sink.writeAnswers bytes).result := rfl
  have accepted : (sink.writeAll bytes).2.accepted =
      sink.accepted ++ (offerAll sink.writeAnswers bytes).accepted := rfl
  have flushes : (sink.writeAll bytes).2.flushes = sink.flushes := rfl
  have answers : (sink.writeAll bytes).2.flushAnswers = sink.flushAnswers := rfl
  cases written : sink.writeAll bytes with
  | mk status after =>
    rw [written] at result accepted flushes answers
    cases status with
    | error failure =>
      refine .refused failure _ after ((offerAll_error_iff _ _ failure).mp result.symm)
        (accepted_offerAll_isPrefix _ _) (fun whole => ?_) accepted flushes
      have succeeds := (offerAll_ok_iff _ _).mpr whole
      cases result.trans succeeds
    | ok =>
      have whole : (offerAll sink.writeAnswers bytes).accepted = bytes :=
        (offerAll_ok_iff _ _).mp result.symm
      have takes : ∀ other, ¬ Refuses sink.writeAnswers bytes.length other := by
        intro other refuses
        cases result.trans ((offerAll_error_iff _ _ other).mpr refuses)
      have kept : after.flush.2.accepted = after.accepted := by rw [flush_eq]
      rw [whole, ← kept] at accepted
      have counted : after.flush.2.flushes = sink.flushes + 1 := by rw [flush_eq, ← flushes]
      have flushed := flush_cases after
      rw [answers] at flushed
      dsimp only
      generalize after.flush = final at accepted counted flushed ⊢
      obtain ⟨status, last⟩ := final
      rcases flushed with ⟨failure, fails, same⟩ | ⟨succeeds, same⟩
      · cases same
        exact .unflushed failure last takes fails accepted counted
      · cases same
        exact .shown last takes succeeds accepted counted

/-! ### Streams that accept everything -/

/-- Whether a stream accepts whatever is written on it, perhaps in pieces and perhaps only when a
call is repeated. -/
structure IsWilling (sink : Sink) : Prop where
  takes : ∀ answer ∈ sink.writeAnswers, answer.fatal? = none
  flushes : ∀ answer ∈ sink.flushAnswers, answer = .succeeds

theorem IsWilling.not_refuses {sink : Sink} (willing : sink.IsWilling) (size : Nat)
    (failure : IoError) : ¬ Refuses sink.writeAnswers size failure :=
  not_refuses_of_forall willing.takes size failure

/-- A transcript appears in full on a stream that accepts everything. -/
theorem IsWilling.writeTranscript {sink : Sink} (willing : sink.IsWilling) (text : String) :
    (sink.writeTranscript text).1 = .ok () ∧
      (sink.writeTranscript text).2.accepted = sink.accepted ++ Bytes.ofString text := by
  have writes := sink.writes_writeTranscript text
  generalize sink.writeTranscript text = written at writes ⊢
  obtain ⟨status, after⟩ := written
  cases writes with
  | refused failure part after refuses => exact absurd refuses (willing.not_refuses _ failure)
  | unflushed failure after takes flushFails =>
    cases willing.flushes _ (List.mem_of_head? flushFails)
  | shown after takes flushes? accepted => exact ⟨rfl, accepted⟩

end Sink

end ShellSmoke
