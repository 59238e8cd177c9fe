/-
This file proves that the tool that counts does so: what it counts does not depend on the pieces in
which it reads a file, and is what the content of the file has. Lines are counted by their ends, and
words by the parts between separators in which there is something to see.
-/

import ShellSmoke.Proofs.Tools.Basic
import ShellSmoke.Tools.Counting

namespace ShellSmoke.Tools

open Machine

/-! ### What a text has -/

/-- What is counted in a text. -/
def countsOf (text : Bytes) : Counts := (text.foldl CountPlace.step .start).finish

/-- Whether a byte sets words apart. -/
def separates (byte : UInt8) : Bool :=
  byte = 9 || byte = 10 || byte = 11 || byte = 12 || byte = 13 || byte = 32

/-- Whether there is something to see in a part of a text. -/
def isVisible (part : Bytes) : Bool := part.any isPrintable

theorem bytes_step (place : CountPlace) (byte : UInt8) :
    (place.step byte).counts.bytes = place.counts.bytes + 1 := by
  unfold CountPlace.step CountPlace.endLine CountPlace.separate
  grind

theorem lines_step (place : CountPlace) (byte : UInt8) :
    (place.step byte).counts.lines = place.counts.lines + if byte = 10 then 1 else 0 := by
  unfold CountPlace.step CountPlace.endLine CountPlace.separate
  grind

theorem finish_counts (place : CountPlace) :
    place.finish.bytes = place.counts.bytes ∧ place.finish.lines = place.counts.lines ∧
      place.finish.words = place.counts.words + if place.inWord then 1 else 0 := by
  unfold CountPlace.finish CountPlace.endLine CountPlace.separate
  grind

theorem bytes_countsOf (text : Bytes) : (countsOf text).bytes = text.length := by
  have folded (place : CountPlace) : (text.foldl CountPlace.step place).counts.bytes =
      place.counts.bytes + text.length := by
    induction text generalizing place with
    | nil => rfl
    | cons byte rest inductionHypothesis =>
      rw [List.foldl_cons, inductionHypothesis, bytes_step, List.length_cons]
      omega
  rw [countsOf, (finish_counts _).1, folded]
  simp [CountPlace.start, Counts.zero]

theorem lines_countsOf (text : Bytes) : (countsOf text).lines = text.count 10 := by
  have folded (place : CountPlace) : (text.foldl CountPlace.step place).counts.lines =
      place.counts.lines + text.count 10 := by
    induction text generalizing place with
    | nil => rfl
    | cons byte rest inductionHypothesis =>
      rw [List.foldl_cons, inductionHypothesis, lines_step, List.count_cons]
      simp only [beq_iff_eq]
      omega
  rw [countsOf, (finish_counts _).2.1, folded]
  simp [CountPlace.start, Counts.zero]

theorem step_of_separates (place : CountPlace) (byte : UInt8) (separated : separates byte = true) :
    (place.step byte).counts.words = place.counts.words + (if place.inWord then 1 else 0) ∧
      (place.step byte).inWord = false := by
  unfold separates at separated
  unfold CountPlace.step CountPlace.endLine CountPlace.separate
  grind

theorem step_of_not_separates (place : CountPlace) (byte : UInt8)
    (joined : separates byte = false) :
    (place.step byte).counts.words = place.counts.words ∧
      (place.step byte).inWord = (place.inWord || isPrintable byte) := by
  unfold separates at joined
  unfold CountPlace.step
  grind

/-- How many parts are words, where there may have been something to see before the first. -/
def wordsFrom (started : Bool) : List Bytes → Nat
  | [] => 0
  | part :: rest => (if started || isVisible part then 1 else 0) + rest.countP isVisible

theorem words_foldl (text : Bytes) (place : CountPlace) :
    (text.foldl CountPlace.step place).finish.words =
      place.counts.words + wordsFrom place.inWord (text.splitOnP separates) := by
  induction text generalizing place with
  | nil => simp [(finish_counts place).2.2, wordsFrom, isVisible]
  | cons byte rest inductionHypothesis =>
    rw [List.foldl_cons, inductionHypothesis, List.splitOnP_cons_eq_if_modifyHead]
    obtain ⟨part, others, parts⟩ := List.exists_cons_of_ne_nil (List.splitOnP_ne_nil separates rest)
    cases separated : separates byte with
    | true =>
      obtain ⟨words, inWord⟩ := step_of_separates place byte separated
      rw [words, inWord, parts]
      have nothing : isVisible [] = false := rfl
      simp only [wordsFrom, nothing, List.countP_cons, if_true, Bool.or_false, Bool.false_or]
      omega
    | false =>
      obtain ⟨words, inWord⟩ := step_of_not_separates place byte separated
      rw [words, inWord, parts]
      simp [wordsFrom, isVisible, Bool.or_assoc]

/-- The words of a text are the parts between separators in which there is something to see. -/
theorem words_countsOf (text : Bytes) :
    (countsOf text).words = (text.splitOnP separates).countP isVisible := by
  obtain ⟨part, others, parts⟩ := List.exists_cons_of_ne_nil (List.splitOnP_ne_nil separates text)
  rw [countsOf, words_foldl, parts]
  simp [wordsFrom, CountPlace.start, Counts.zero, List.countP_cons, Nat.add_comm]

/-! ### Counting a file -/

variable {promise : List Reply → Option UInt8 → Prop}

/-- Whoever counts a descriptor counts what was read from it, in whichever pieces. -/
theorem keeps_countDescriptor {descriptor : Nat} {next : Counts × Option Errno → Program}
    (lifetime : Nat) (place : CountPlace) (history : List Reply)
    (meanwhile : ∀ replies, (∀ target, givenTo target replies = []) →
      promise (history ++ replies) none)
    (afterwards : ∀ replies fault, ReadToEnd descriptor lifetime fault replies →
      (next (((takenFrom descriptor replies).foldl CountPlace.step place).finish, fault)).Keeps
        promise (history ++ replies)) :
    (countDescriptor descriptor lifetime place next).Keeps promise history := by
  induction lifetime generalizing place history with
  | zero =>
    rw [← List.append_nil history]
    exact afterwards [] none readToEnd_nil
  | succ lifetime inductionHypothesis =>
    refine ⟨by simpa using meanwhile [] fun _ => rfl, fun answer => ?_⟩
    match answer with
    | .error errno => exact afterwards _ (some errno) readToEnd_error
    | .ok [] =>
      have reads : ReadToEnd descriptor (lifetime + 1) none
          [⟨.read descriptor chunkSize, .ok []⟩] := readToEnd_end
      simpa [Reply.taken] using afterwards _ none reads
    | .ok (byte :: bytes) =>
      refine inductionHypothesis _ _ (fun replies silent => ?_) (fun replies fault reads => ?_)
      · rw [List.append_assoc]
        exact meanwhile _ fun target => by simpa [Reply.given] using silent target
      · rw [List.append_assoc]
        have whole : ReadToEnd descriptor (lifetime + 1) fault
            (⟨.read descriptor chunkSize, .ok (byte :: bytes)⟩ :: replies) := reads.cons
        simpa [Reply.taken, List.foldl_append] using afterwards _ fault whole

/-! ### The tool -/

/-- One count of a text as it is shown, alone on a line. -/
def countShown (measure : Measure) (text : Bytes) : Bytes :=
  Bytes.ofString (toString ((countsOf text).get measure)) ++ [10]

theorem countLine_single (measure : Measure) (counts : Counts) :
    countLine [measure] 1 counts none = Bytes.ofString (toString (counts.get measure)) ++ [10] := by
  have shown : (toString (counts.get measure)).length ≠ 0 := by simp
  have filled : 1 - (toString (counts.get measure)).length = 0 := by omega
  have unfilled : "".pushn ' ' 0 = "" := rfl
  simp only [countLine, List.map_cons, List.map_nil, filled, unfilled, String.empty_append,
    String.intercalate_singleton, List.append_nil]

variable {launch : Launch} {measure : Measure} {replies : List Reply}

/-- What a tool promises that shows one count of its input. -/
abbrev ShowsCount (measure : Measure) (lifetime : Nat) : List Reply → Option UInt8 → Prop :=
  Renders (countShown measure) Reply.IsRefusal lifetime

theorem keeps_showCounts {line : Bytes} {next : Unit → Program} (begun : replies ≠ [])
    (leaves : Leaves (countShown measure) launch.lifetime line replies)
    (written : ∀ more, Leaves (countShown measure) launch.lifetime [] (replies ++ more) →
      (next ()).Keeps (ShowsCount measure launch.lifetime) (replies ++ more)) :
    (showCounts launch line next).Keeps (ShowsCount measure launch.lifetime) replies :=
  keeps_writeRest (fun _ refusal => refusal) begun leaves written
    fun _ _ under hindered => keeps_giveUp under hindered

/-- The tool that counts shows one count of its input, if that is what its options ask for. -/
theorem count_showsCount {wishes : List Wish} {setting : CountSetting}
    (reads : CountSetting.options.table.read (given? launch "POSIXLY_CORRECT").isNone
      launch.arguments.tail = (wishes, []))
    (settles : CountSetting.options.settle CountSetting.options.initial wishes =
      .ok (.inl setting))
    (unnamed : setting.names = none) (single : setting.shown = [measure])
    (usual : setting.total = .auto) :
    (count.main launch).Keeps (ShowsCount measure launch.lifetime) [] := by
  refine keeps_toolOf (fun _ refusal => refusal) fun replies silent begun => ?_
  have named : nameFault? ⟨[Bytes.ofString "-"], none, true⟩ (0 + 1) (Bytes.ofString "-") = none :=
    rfl
  rw [runWithOptions_eq _ reads settles]
  simp only [unnamed, single, List.isEmpty_nil, if_true, List.length_singleton, and_self,
    countAll, usual, reduceCtorEq, if_false, Routine.bind_apply, Routine.pure_apply,
    List.zipIdx_cons, List.zipIdx_nil, countFiles, named, openInput, closeInput, ne_eq,
    not_true_eq_false, if_false]
  refine keeps_countDescriptor launch.lifetime .start replies (fun more silentMore => ?_)
    (fun more fault readsAll => ?_)
  · refine .midway fun _ => ?_
    rw [givenTo_append, silent.given 1 nofun, silentMore]
    exact List.nil_prefix
  have leaves : Leaves (countShown measure) launch.lifetime
      (countLine [measure] 1 (countsOf (takenFrom 0 more)) none) (replies ++ more) := by
    intro _
    rw [givenTo_append, takenFrom_append, silent.given 1 nofun, silent.taken, readsAll.given,
      countLine_single]
    rfl
  have under : IsUnder (countShown measure) launch.lifetime (replies ++ more) := by
    simpa using leaves.isUnder (.nil 1 _)
  match fault with
  | some errno =>
    obtain ⟨reply, member, refusal⟩ := readsAll.refused nofun
    have hindered : IsHindered Reply.IsRefusal (replies ++ more) :=
      ⟨reply, List.mem_append_right _ member, refusal⟩
    refine keeps_complain (fun _ silent => .midway (under.append silent))
      (fun told silent => ?_)
    refine keeps_showCounts (by simp [begun]) (leaves.append silent) fun shown whole => ?_
    have failed : ShowsCount measure launch.lifetime (replies ++ more ++ told ++ shown) (some 1) :=
      .failed (by simpa using whole.isUnder (.nil 1 []))
        ((hindered.append told).append shown) nofun
    exact keeps_close (fun _ refusal => refusal) failed rfl fun _ => ⟨_, rfl⟩
  | none =>
    refine keeps_showCounts (by simp [begun]) leaves fun shown whole => ?_
    have ended : IsEnded launch.lifetime (replies ++ more) := by
      intro short
      have positive : 0 < replies.length := List.length_pos_iff.mpr begun
      rw [List.length_append] at short
      obtain ⟨reply, member, ending⟩ := readsAll.whole rfl (by omega)
      exact ⟨reply, List.mem_append_right _ member, ending⟩
    exact keeps_close (fun _ refusal => refusal) (.done whole (ended.append shown)) rfl
      fun _ => ⟨_, rfl⟩

/-- With the option for lines, the tool shows how many newlines its input has. -/
theorem count_showsLines (lines : launch.arguments.tail = [Bytes.ofString "-l"])
    {replies : List Reply} {last : Program} (comes : (count.main launch).Comes replies last)
    (short : replies.length ≤ launch.lifetime) (done : last.code? = some 0) :
    givenTo 1 replies =
      Bytes.ofString (toString ((takenFrom 0 replies).count 10)) ++ [10] := by
  have reads : CountSetting.options.table.read (given? launch "POSIXLY_CORRECT").isNone
      launch.arguments.tail = ([.option "l" none], []) := by
    rw [lines]
    cases (given? launch "POSIXLY_CORRECT").isNone <;> rfl
  have keeps : (count.main launch).Keeps (ShowsCount .lines launch.lifetime) [] :=
    count_showsCount reads rfl rfl rfl rfl
  have promise := Program.keeps_iff.mp keeps replies last comes
  rw [List.nil_append] at promise
  have whole := (promise.whole done).1 short
  rw [List.append_nil] at whole
  rw [whole, countShown, Counts.get, lines_countsOf]

end ShellSmoke.Tools
