/-
This file proves that the tool that shows the end of a file does so. The last lines of a content are
what it ends with, from the beginning of a line on, and they are as many as were asked for or all
there are; counted from the front, so many lines are left out. What is shown of an input does not
depend on the pieces in which it is read.
-/

import Mathlib.Data.List.SplitBy
import ShellSmoke.Proofs.Tools.Basic
import ShellSmoke.Tools.Following

namespace ShellSmoke.Tools

open Machine

/-! ### The last lines -/

/-- The lines of a text, each with the byte that ends it; the last need not have one. -/
def linesIn (ending : UInt8) (text : Bytes) : List Bytes := text.splitBy fun byte _ => byte ≠ ending

theorem Excerpt.of_eq (excerpt : Excerpt) (content : Bytes) (lines : excerpt.inBytes = false) :
    excerpt.of content =
      ((linesIn excerpt.ending content).drop
        ((linesIn excerpt.ending content).length - excerpt.count)).flatten := by
  unfold Excerpt.of
  rw [if_neg (by simp [lines])]
  rfl

/-- Lines in a row are the lines of the text that they make. -/
theorem linesIn_flatten_drop (ending : UInt8) (text : Bytes) (count : Nat) :
    linesIn ending ((linesIn ending text).drop count).flatten = (linesIn ending text).drop count := by
  have chain := List.isChain_getLast_head_splitBy (fun byte _ => decide (byte ≠ ending)) text
  refine List.splitBy_flatten ?_ (fun line member => ?_) (chain.drop count)
  · exact fun member => List.nil_notMem_splitBy _ _ (List.mem_of_mem_drop member)
  · exact List.isChain_of_mem_splitBy (List.mem_of_mem_drop member)

/-- An excerpt in lines has as many lines as were asked for, or all there are. -/
theorem length_linesIn_of (excerpt : Excerpt) (content : Bytes)
    (lines : excerpt.inBytes = false) :
    (linesIn excerpt.ending (excerpt.of content)).length =
      min excerpt.count (linesIn excerpt.ending content).length := by
  rw [excerpt.of_eq content lines, linesIn_flatten_drop, List.length_drop]
  omega

/-- An excerpt in bytes has as many bytes as were asked for, or all there are. -/
theorem length_of (excerpt : Excerpt) (content : Bytes) (bytes : excerpt.inBytes = true) :
    (excerpt.of content).length = min excerpt.count content.length := by
  unfold Excerpt.of Excerpt.lastOf
  rw [if_pos bytes, List.length_drop]
  omega

/-- An excerpt is what a content ends with. -/
theorem of_isSuffix (excerpt : Excerpt) (content : Bytes) : excerpt.of content <:+ content := by
  cases lines : excerpt.inBytes with
  | true =>
    unfold Excerpt.of
    rw [if_pos lines]
    exact List.drop_suffix _ _
  | false =>
    rw [excerpt.of_eq content lines]
    have whole := List.flatten_splitBy (fun byte _ => decide (byte ≠ excerpt.ending)) content
    obtain ⟨front, parts⟩ := List.drop_suffix
      ((linesIn excerpt.ending content).length - excerpt.count) (linesIn excerpt.ending content)
    refine ⟨front.flatten, ?_⟩
    rw [← List.flatten_append, parts]
    exact whole

/-- An excerpt in lines begins where a line does. -/
theorem getLast?_before_of (excerpt : Excerpt) {content before : Bytes}
    (lines : excerpt.inBytes = false) (parts : before ++ excerpt.of content = content)
    (hidden : before ≠ []) (shown : excerpt.of content ≠ []) :
    before.getLast? = some excerpt.ending := by
  have chain := List.isChain_getLast_head_splitBy
    (fun byte _ => decide (byte ≠ excerpt.ending)) content
  have whole := List.flatten_splitBy (fun byte _ => decide (byte ≠ excerpt.ending)) content
  rw [excerpt.of_eq content lines, linesIn] at parts shown
  generalize content.splitBy (fun byte _ => decide (byte ≠ excerpt.ending)) = all at *
  rw [← List.take_append_drop (all.length - excerpt.count) all] at chain whole
  generalize all.take (all.length - excerpt.count) = front at *
  generalize all.drop (all.length - excerpt.count) = back at *
  rw [List.flatten_append, ← parts] at whole
  obtain rfl : front.flatten = before := List.append_cancel_right whole
  obtain rfl | ⟨init, last, rfl⟩ := front.eq_nil_or_concat
  · exact absurd rfl hidden
  obtain _ | ⟨first, others⟩ := back
  · exact absurd rfl shown
  obtain ⟨some, _, differs⟩ := (List.isChain_append.mp chain).2.2 last (by simp) first (by simp)
  simp only [ne_eq, decide_not, Bool.not_eq_false', decide_eq_true_eq] at differs
  rw [List.concat_eq_append, List.flatten_append, List.flatten_singleton, List.getLast?_append,
    List.getLast?_eq_some_getLast some, differs]
  rfl

/-! ### All but the first lines -/

/-- What is left of a text without its first lines: as many of their ends are left out as were asked
for, unless the whole text is. -/
theorem skipLines_spec (ending : UInt8) (count : Nat) (text : Bytes) :
    ∃ before, text = before ++ (Excerpt.skipLines ending count text).1 ∧
      before.count ending + (Excerpt.skipLines ending count text).2 = count ∧
        ((Excerpt.skipLines ending count text).2 ≠ 0 →
          (Excerpt.skipLines ending count text).1 = []) := by
  induction text generalizing count with
  | nil => cases count <;> exact ⟨[], by simp [Excerpt.skipLines]⟩
  | cons byte rest inductionHypothesis =>
    cases count with
    | zero => exact ⟨[], by simp [Excerpt.skipLines]⟩
    | succ count =>
      obtain ⟨before, parts, counted, gone⟩ :=
        inductionHypothesis (if byte = ending then count else count + 1)
      refine ⟨byte :: before, ?_, ?_, gone⟩
      · exact congrArg (byte :: ·) parts
      · simp only [Excerpt.skipLines, List.count_cons, beq_iff_eq]
        split
        · rw [if_pos ‹_›] at counted
          omega
        · rw [if_neg ‹_›] at counted
          omega

theorem skipLines_append (ending : UInt8) (count : Nat) (first second : Bytes) :
    Excerpt.skipLines ending count (first ++ second) =
      ((Excerpt.skipLines ending count first).1 ++
          (Excerpt.skipLines ending (Excerpt.skipLines ending count first).2 second).1,
        (Excerpt.skipLines ending (Excerpt.skipLines ending count first).2 second).2) := by
  induction first generalizing count with
  | nil => cases count <;> rfl
  | cons byte rest inductionHypothesis =>
    cases count with
    | zero => cases second <;> rfl
    | succ count => exact inductionHypothesis _

/-- What is left out in front does not depend on the pieces in which a text comes. -/
theorem isSteady_skip (excerpt : Excerpt) : IsSteady excerpt.skip where
  nothing count := by
    cases count <;> simp [Excerpt.skip, Excerpt.skipLines]
  append count first second := by
    unfold Excerpt.skip
    cases excerpt.inBytes with
    | true => simp [List.drop_append, Nat.sub_sub]
    | false => simpa using skipLines_append excerpt.ending count first second

/-! ### Reading and showing -/

/-- Whoever reads a descriptor to its end has what was read from it. -/
theorem keeps_readToEnd {promise : List Reply → Option UInt8 → Prop} {descriptor : Nat}
    {next : Bytes × Option Errno → Program} (lifetime : Nat) (history : List Reply)
    (meanwhile : ∀ replies, (∀ target, givenTo target replies = []) →
      promise (history ++ replies) none)
    (afterwards : ∀ replies fault, ReadToEnd descriptor lifetime fault replies →
      (next (takenFrom descriptor replies, fault)).Keeps promise (history ++ replies)) :
    (readToEnd descriptor lifetime next).Keeps promise history := by
  induction lifetime generalizing next history with
  | zero =>
    rw [← List.append_nil history]
    exact afterwards [] none readToEnd_nil
  | succ lifetime inductionHypothesis =>
    refine ⟨by simpa using meanwhile [] fun _ => rfl, fun answer => ?_⟩
    match answer with
    | .error errno => exact afterwards _ (some errno) readToEnd_error
    | .ok [] =>
      have reads : ReadToEnd descriptor (lifetime + 1) none
          [⟨.read descriptor chunkSize, .ok []⟩] := readToEnd_end
      simpa [Reply.taken] using afterwards _ none reads
    | .ok (byte :: bytes) =>
      refine inductionHypothesis _ (fun replies silent => ?_) (fun replies fault reads => ?_)
      · rw [List.append_assoc]
        exact meanwhile _ fun target => by simpa [Reply.given] using silent target
      · rw [List.append_assoc]
        have whole : ReadToEnd descriptor (lifetime + 1) fault
            (⟨.read descriptor chunkSize, .ok (byte :: bytes)⟩ :: replies) := reads.cons
        simpa [Reply.taken] using afterwards _ fault whole

/-- What an excerpt shows of a content. -/
def Excerpt.shown (excerpt : Excerpt) (content : Bytes) : Bytes :=
  if excerpt.fromFront then (excerpt.skip excerpt.skipped content).1 else excerpt.of content

/-- What the tool promises that shows a part of its input. -/
abbrev ShowsPart (excerpt : Excerpt) (lifetime : Nat) : List Reply → Option UInt8 → Prop :=
  Renders excerpt.shown Reply.IsRefusal lifetime

variable {launch : Launch} {excerpt : Excerpt} {history : List Reply}

theorem keeps_showText {text : Bytes} {next : Unit → Program} (begun : history ≠ [])
    (leaves : Leaves excerpt.shown launch.lifetime text history)
    (written : ∀ more, Leaves excerpt.shown launch.lifetime [] (history ++ more) →
      (next ()).Keeps (ShowsPart excerpt launch.lifetime) (history ++ more)) :
    (showText launch text next).Keeps (ShowsPart excerpt launch.lifetime) history := by
  refine keeps_writeRest (fun _ refusal => refusal) begun leaves written
    fun errno more under hindered => ?_
  simp only [complainOfWriting]
  split <;> exact keeps_giveUp under hindered

theorem keeps_showExcerpt {next : Option Errno → Program} (silent : IsSilent history)
    (begun : history ≠ [])
    (well : ∀ replies, Leaves excerpt.shown launch.lifetime [] replies →
      IsEnded launch.lifetime replies →
      (next none).Keeps (ShowsPart excerpt launch.lifetime) replies)
    (ill : ∀ errno replies, IsUnder excerpt.shown launch.lifetime replies →
      IsHindered Reply.IsRefusal replies →
      (next (some errno)).Keeps (ShowsPart excerpt launch.lifetime) replies) :
    (showExcerpt launch excerpt 0 next).Keeps (ShowsPart excerpt launch.lifetime) history := by
  have positive : 0 < history.length := List.length_pos_iff.mpr begun
  unfold showExcerpt
  split
  case isTrue front =>
    have shown (text : Bytes) :
        excerpt.shown text = (excerpt.skip excerpt.skipped text).1 := if_pos front
    have under {replies : List Reply}
        (copies : Copies excerpt.skip 0 launch.lifetime excerpt.skipped replies) :
        IsUnder excerpt.shown launch.lifetime (history ++ replies) := by
      intro short
      rw [List.length_append] at short
      rw [givenTo_append, takenFrom_append, silent.given 1 nofun, silent.taken, shown]
      exact copies (by omega)
    refine keeps_copyThrough (isSteady_skip excerpt) launch.lifetime excerpt.skipped history
      (fun replies copies => .midway (under copies)) (fun replies result copied => ?_)
    match result with
    | .ok last =>
      refine well _ (fun short => ?_) (fun short => ?_)
      · rw [List.length_append] at short
        simp [silent.given 1, silent.taken, shown, (copied.whole last rfl (by omega)).1]
      · rw [List.length_append] at short
        obtain ⟨reply, member, ending⟩ := (copied.whole last rfl (by omega)).2
        exact ⟨reply, List.mem_append_right _ member, ending⟩
    | .error fault =>
      obtain ⟨reply, member, refusal⟩ := copied.refused fault rfl
      have hindered : IsHindered Reply.IsRefusal (history ++ replies) :=
        ⟨reply, List.mem_append_right _ member, refusal⟩
      match fault with
      | .reading errno => exact ill errno _ (under copied.part) hindered
      | .writing errno => exact keeps_giveUp (under copied.part) hindered
  case isFalse back =>
    refine keeps_readToEnd launch.lifetime history (fun replies silentMore => ?_)
      (fun replies fault reads => ?_)
    · refine .midway fun _ => ?_
      rw [givenTo_append, silent.given 1 nofun, silentMore]
      exact List.nil_prefix
    have leaves : Leaves excerpt.shown launch.lifetime (excerpt.of (takenFrom 0 replies))
        (history ++ replies) := by
      intro _
      rw [givenTo_append, takenFrom_append, silent.given 1 nofun, silent.taken, reads.given,
        Excerpt.shown, if_neg back]
      rfl
    refine keeps_showText (by simp [begun]) leaves fun more whole => ?_
    match fault with
    | none =>
      refine well _ whole (IsEnded.append (fun short => ?_) more)
      rw [List.length_append] at short
      obtain ⟨reply, member, ending⟩ := reads.whole rfl (by omega)
      exact ⟨reply, List.mem_append_right _ member, ending⟩
    | some errno =>
      obtain ⟨reply, member, refusal⟩ := reads.refused nofun
      refine ill errno _ (by simpa using whole.isUnder (.nil 1 [])) ?_
      exact IsHindered.append ⟨reply, List.mem_append_right _ member, refusal⟩ more

theorem keeps_showFiles {setting : TailSetting} {next : List Followed × Bool → Program}
    (once : setting.follow = none) (silent : IsSilent history)
    (well : ∀ files replies, Leaves setting.excerpt.shown launch.lifetime [] replies →
      IsEnded launch.lifetime replies →
      (next (files, true)).Keeps (ShowsPart setting.excerpt launch.lifetime) replies)
    (ill : ∀ files replies, IsUnder setting.excerpt.shown launch.lifetime replies →
      IsHindered Reply.IsRefusal replies →
      (next (files, false)).Keeps (ShowsPart setting.excerpt launch.lifetime) replies) :
    (showFiles launch setting false true [Bytes.ofString "-"] next).Keeps
      (ShowsPart setting.excerpt launch.lifetime) history := by
  unfold showFiles
  simp only [openInput, closeInput, if_true, Routine.bind_apply, Routine.pure_apply, ne_eq,
    not_true_eq_false, if_false, Bool.false_eq_true, once, Option.isSome_none, false_and,
    not_false_eq_true, Bool.false_and, Bool.not_false, Bool.and_true, showFiles]
  refine ⟨.midway silent.isUnder, fun state => ?_⟩
  have described : IsSilent (history ++ [⟨.describe 0, state⟩]) :=
    silent.append ⟨fun _ _ => rfl, fun _ => rfl⟩
  have complains {text : Bytes} {replies : List Reply} {files : List Followed}
      (under : IsUnder setting.excerpt.shown launch.lifetime replies)
      (hindered : IsHindered Reply.IsRefusal replies) :
      (complain launch text fun _ => next (files, false)).Keeps
        (ShowsPart setting.excerpt launch.lifetime) replies :=
    keeps_complain (fun _ still => .midway (under.append still))
      (fun more still => ill _ _ (under.append still) (hindered.append more))
  match state with
  | .error errno =>
    exact complains described.isUnder
      ⟨_, List.mem_append_right _ (List.mem_singleton_self _), trivial⟩
  | .ok state =>
    refine keeps_showExcerpt described (by simp) (fun replies leaves ended => ?_)
      (fun errno replies under hindered => ?_)
    · exact well _ _ leaves ended
    · simp only [Routine.bind_apply]
      split
      · exact keeps_giveUp under hindered
      · exact complains under hindered

/-! ### The tool -/

/-- The tool that shows the end of a file, or all but its front, does so with its input if nothing
else is asked for. -/
theorem keeps_showEnds {setting : TailSetting} (once : setting.follow = none)
    (single : setting.retry = false) (unwatched : setting.watched = none)
    (untitled : setting.titled = none) (counts : setting.excerpt.count ≠ 0)
    (silent : IsSilent history) :
    (showEnds launch setting [] fun code => .exit code).Keeps
      (ShowsPart setting.excerpt launch.lifetime) history := by
  unfold showEnds
  simp only [warnOfOptions, once, single, unwatched, TailSetting.isTitled, untitled, counts,
    Routine.bind_apply, Routine.pure_apply, Bool.false_eq_true, if_false, Option.isSome_none,
    false_and, reduceCtorEq, and_false, List.isEmpty_nil, if_true, Option.getD_none,
    List.length_singleton, Nat.lt_irrefl, decide_false, List.contains_cons, beq_self_eq_true,
    Bool.true_or]
  refine keeps_showFiles once silent (fun files replies leaves ended => ?_)
    (fun files replies under hindered => ?_)
  · exact keeps_close (fun _ refusal => refusal) (.done leaves ended) rfl fun _ => ⟨_, rfl⟩
  · have failed : ShowsPart setting.excerpt launch.lifetime replies (some 1) :=
      .failed under hindered nofun
    exact keeps_close (fun _ refusal => refusal) failed rfl fun _ => ⟨_, rfl⟩

/-- Without options and operands, the tool shows the last ten lines of its input. -/
theorem tail_showsEnd (alone : launch.arguments.tail = []) {replies : List Reply} {last : Program}
    (comes : (tail.main launch).Comes replies last) (short : replies.length ≤ launch.lifetime)
    (done : last.code? = some 0) :
    givenTo 1 replies <:+ takenFrom 0 replies ∧
      (linesIn 10 (givenTo 1 replies)).length = min 10 (linesIn 10 (takenFrom 0 replies)).length := by
  have keeps : (tail.main launch).Keeps (ShowsPart TailSetting.plain.excerpt launch.lifetime) [] := by
    refine keeps_toolOf (fun _ refusal => refusal) fun replies silent begun => ?_
    have reads : TailSetting.options.table.read (given? launch "POSIXLY_CORRECT").isNone [] =
        ([], []) := rfl
    simp only [alone]
    change (runWithOptions "tail" 1 TailSetting.options launch [] (showEnds launch) _).Keeps _ _
    rw [runWithOptions_eq _ reads rfl]
    exact keeps_showEnds rfl rfl rfl rfl nofun silent
  have promise := Program.keeps_iff.mp keeps replies last comes
  rw [List.nil_append] at promise
  have whole := (promise.whole done).1 short
  rw [List.append_nil] at whole
  have shown (text : Bytes) :
      TailSetting.plain.excerpt.shown text = TailSetting.plain.excerpt.of text := rfl
  rw [whole, shown]
  exact ⟨of_isSuffix _ _, length_linesIn_of _ _ rfl⟩

end ShellSmoke.Tools
