/-
This file proves that the tool that copies its input does so: whatever the system answers, and in
whichever pieces it gives and takes the bytes, what was written is at every moment a part in front
of what the input read so far becomes; and a copy that ends well is whole. Plainly copied, the input
becomes itself.
-/

import ShellSmoke.Proofs.Tools.Basic
import ShellSmoke.Tools.Copying

namespace ShellSmoke.Tools

open Machine

/-! ### Copying with signs -/

theorem foldl_steps (style : CopyStyle) (text : Bytes) (pieces : List Bytes) (place : CopyPlace) :
    let step := fun (pieces, place) byte =>
      let (piece, place) := CopyPlace.step style place byte
      (piece :: pieces, place)
    text.foldl step (pieces, place) =
      ((text.foldl step ([], place)).1 ++ pieces, (text.foldl step ([], place)).2) := by
  intro step
  induction text generalizing pieces place with
  | nil => rfl
  | cons byte rest inductionHypothesis =>
    rw [List.foldl_cons, List.foldl_cons, inductionHypothesis, inductionHypothesis [_]]
    simp

/-- What is written for a text is written for its first byte, and then for the rest. -/
theorem steps_cons (style : CopyStyle) (place : CopyPlace) (byte : UInt8) (rest : Bytes) :
    CopyPlace.steps style place (byte :: rest) =
      ((place.step style byte).1 ++ (CopyPlace.steps style (place.step style byte).2 rest).1,
        (CopyPlace.steps style (place.step style byte).2 rest).2) := by
  have first := foldl_steps style rest [(place.step style byte).1] (place.step style byte).2
  simp only [CopyPlace.steps, List.foldl_cons, first]
  simp

/-- Copying in a style does not depend on the pieces in which a text comes. -/
theorem isSteady_steps (style : CopyStyle) : IsSteady (CopyPlace.steps style) where
  nothing _ := rfl
  append place first second := by
    induction first generalizing place with
    | nil => rfl
    | cons byte rest inductionHypothesis =>
      rw [List.cons_append, steps_cons, inductionHypothesis, steps_cons]
      simp

/-- What becomes of a text that is copied in a style. A carriage return that was kept comes last. -/
def copied (style : CopyStyle) (text : Bytes) : Bytes :=
  let result := CopyPlace.steps style .start text
  result.1 ++ if result.2.returned then [13] else []

theorem step_plain (place : CopyPlace) (byte : UInt8) (kept : place.returned = false) :
    (place.step .plain byte).1 = [byte] ∧ (place.step .plain byte).2.returned = false := by
  unfold CopyPlace.step
  split
  · subst byte
    simp [CopyPlace.endLine, CopyPlace.numbered, CopyStyle.plain]
  · simp [CopyPlace.numbered, CopyStyle.plain, CopyStyle.signs, kept]

theorem steps_plain (place : CopyPlace) (text : Bytes) (kept : place.returned = false) :
    (CopyPlace.steps .plain place text).1 = text ∧
      (CopyPlace.steps .plain place text).2.returned = false := by
  induction text generalizing place with
  | nil => exact ⟨rfl, kept⟩
  | cons byte rest inductionHypothesis =>
    obtain ⟨same, later⟩ := step_plain place byte kept
    obtain ⟨sameRest, last⟩ := inductionHypothesis _ later
    rw [steps_cons, same, sameRest]
    exact ⟨rfl, last⟩

/-- A text that is copied plainly stays as it is. -/
theorem copied_plain (text : Bytes) : copied .plain text = text := by
  obtain ⟨same, last⟩ := steps_plain .start text rfl
  simp [copied, same, last]

/-! ### Looking at the input -/

/-- What keeps a copy from being made: a refusal, or an input that is a regular file and so could be
the output as well. -/
def HindersCopy : Reply → Prop
  | ⟨.describe descriptor, .ok state⟩ => descriptor = 0 ∧ state.kind = .regular
  | reply => reply.IsRefusal

theorem hindersCopy_of_isRefusal (reply : Reply) (refusal : reply.IsRefusal) :
    HindersCopy reply := by
  unfold HindersCopy
  split
  · cases refusal
  · exact refusal

/-- What the tool promises that copies its input. -/
abbrev CopiesInput (style : CopyStyle) (lifetime : Nat) : List Reply → Option UInt8 → Prop :=
  Renders (copied style) HindersCopy lifetime

variable {launch : Launch} {style : CopyStyle} {lifetime : Nat} {history : List Reply}

theorem keeps_readsOwnOutput {next : Bool → Program} (silent : IsSilent history)
    (afterwards : ∀ replies own, IsSilent (history ++ replies) →
      (own = true → IsHindered HindersCopy (history ++ replies)) →
      (next own).Keeps (CopiesInput style lifetime) (history ++ replies)) :
    (readsOwnOutput 0 next).Keeps (CopiesInput style lifetime) history := by
  refine ⟨.midway silent.isUnder, fun input => ?_⟩
  refine ⟨.midway (silent.append ⟨fun _ _ => rfl, fun _ => rfl⟩).isUnder, fun output => ?_⟩
  rw [List.append_assoc]
  have described : IsSilent (history ++ [⟨.describe 0, input⟩, ⟨.describe 1, output⟩]) :=
    silent.append ⟨fun _ _ => rfl, fun _ => rfl⟩
  match input, output with
  | .error _, _ => exact afterwards _ _ described nofun
  | .ok _, .error _ => exact afterwards _ _ described nofun
  | .ok input, .ok output =>
    refine afterwards _ _ described fun own => ?_
    exact ⟨_, List.mem_append_right _ List.mem_cons_self, rfl, (of_decide_eq_true own).1⟩

/-! ### Copying the input -/

/-- What was seen when the input was copied in a style, or that was given up. -/
structure CopiedInStyle (style : CopyStyle) (lifetime : Nat)
    (result : Except CopyFault CopyPlace) (replies : List Reply) : Prop where
  under : IsUnder (copied style) lifetime replies
  leaves : ∀ place, result = .ok place →
    Leaves (copied style) lifetime (if place.returned then [13] else []) replies
  ended : ∀ place, result = .ok place → IsEnded lifetime replies
  hindered : ∀ fault, result = .error fault → IsHindered HindersCopy replies

/-- After a copy by which a text becomes what it becomes in the style, the input was copied so. -/
theorem keeps_copyThrough_style {State : Type} {change : State → Bytes → Bytes × State}
    {next : Except CopyFault CopyPlace → Program} (initial : State) (placeOf : State → CopyPlace)
    (steady : IsSteady change)
    (becomes : ∀ text, copied style text = (change initial text).1 ++
      if (placeOf (change initial text).2).returned then [13] else [])
    (silent : IsSilent history) (begun : history ≠ [])
    (afterwards : ∀ replies result, CopiedInStyle style lifetime result (history ++ replies) →
      (next result).Keeps (CopiesInput style lifetime) (history ++ replies)) :
    (copyThrough change 0 lifetime initial fun result => next (result.map placeOf)).Keeps
      (CopiesInput style lifetime) history := by
  have positive : 0 < history.length := List.length_pos_iff.mpr begun
  have under {replies : List Reply} (copies : Copies change 0 lifetime initial replies) :
      IsUnder (copied style) lifetime (history ++ replies) := by
    intro short
    rw [List.length_append] at short
    have part := copies (by omega)
    rw [givenTo_append, takenFrom_append, silent.given 1 nofun, silent.taken, becomes]
    exact part.trans (List.prefix_append _ _)
  refine keeps_copyThrough steady lifetime initial history
    (fun replies copies => .midway (under copies)) (fun replies result copied => ?_)
  match result with
  | .ok last =>
    refine afterwards replies _ ⟨under copied.part, ?_, ?_, nofun⟩
    · rintro _ ⟨⟩ short
      rw [List.length_append] at short
      simp [silent.given 1, silent.taken, becomes, (copied.whole last rfl (by omega)).1]
    · rintro _ _ short
      rw [List.length_append] at short
      obtain ⟨reply, member, ending⟩ := (copied.whole last rfl (by omega)).2
      exact ⟨reply, List.mem_append_right _ member, ending⟩
  | .error fault =>
    obtain ⟨reply, member, refusal⟩ := copied.refused fault rfl
    exact afterwards replies _ ⟨under copied.part, nofun, nofun, fun _ _ =>
      ⟨reply, List.mem_append_right _ member, hindersCopy_of_isRefusal reply refusal⟩⟩

theorem keeps_copyInStyle {next : Except CopyFault CopyPlace → Program}
    (silent : IsSilent history) (begun : history ≠ [])
    (afterwards : ∀ replies result, CopiedInStyle style lifetime result (history ++ replies) →
      (next result).Keeps (CopiesInput style lifetime) (history ++ replies)) :
    (copyInStyle style 0 lifetime .start next).Keeps (CopiesInput style lifetime) history := by
  unfold copyInStyle
  split
  · subst style
    refine keeps_copyThrough_style () (fun () => .start) isSteady_same (fun text => ?_) silent begun
      afterwards
    rw [copied_plain]
    simp [CopyPlace.start]
  · have same (result : Except CopyFault CopyPlace) : result.map id = result := by
      cases result <;> rfl
    have copies := keeps_copyThrough_style .start id (isSteady_steps style) (fun _ => rfl) silent
      begun afterwards
    simpa only [same] using copies

variable {next : Bool → Program}

/-- A file that is given up is complained about, and leaves the output as it is. -/
theorem keeps_skip {text : Bytes} (under : IsUnder (copied style) launch.lifetime history)
    (hindered : IsHindered HindersCopy history)
    (ill : ∀ replies, IsUnder (copied style) launch.lifetime replies →
      IsHindered HindersCopy replies →
      (next false).Keeps (CopiesInput style launch.lifetime) replies) :
    (complain launch text fun _ => copyFiles launch style .start [] fun _ => next false).Keeps
      (CopiesInput style launch.lifetime) history :=
  keeps_complain (fun _ silent => .midway (under.append silent))
    (fun replies silent => ill _ (under.append silent) (hindered.append replies))

/-- At the end of a copy, a carriage return that was kept is written. -/
theorem keeps_copyFiles_nil {place : CopyPlace} (begun : history ≠ [])
    (leaves : Leaves (copied style) launch.lifetime (if place.returned then [13] else []) history)
    (ended : IsEnded launch.lifetime history)
    (well : ∀ replies, Leaves (copied style) launch.lifetime [] replies →
      IsEnded launch.lifetime replies →
      (next true).Keeps (CopiesInput style launch.lifetime) replies) :
    (copyFiles launch style place [] next).Keeps (CopiesInput style launch.lifetime) history := by
  unfold copyFiles
  split
  case isFalse kept => exact well history (by simpa [kept] using leaves) ended
  case isTrue kept =>
    simp only [kept, if_true] at leaves
    exact keeps_writeRest hindersCopy_of_isRefusal begun leaves
      (fun more whole => well _ whole (ended.append more))
      (fun _ _ under hindered => keeps_giveUp under hindered)

/-- What is copied when the input is the only file. -/
theorem keeps_copyFiles (silent : IsSilent history) (begun : history ≠ [])
    (well : ∀ replies, Leaves (copied style) launch.lifetime [] replies →
      IsEnded launch.lifetime replies →
      (next true).Keeps (CopiesInput style launch.lifetime) replies)
    (ill : ∀ replies, IsUnder (copied style) launch.lifetime replies →
      IsHindered HindersCopy replies →
      (next false).Keeps (CopiesInput style launch.lifetime) replies) :
    (copyFiles launch style .start [Bytes.ofString "-"] next).Keeps
      (CopiesInput style launch.lifetime) history := by
  unfold copyFiles
  simp only [openInput, closeInput, if_true, Routine.bind_apply, Routine.pure_apply, ne_eq,
    not_true_eq_false, if_false]
  refine keeps_readsOwnOutput silent fun replies own still hindered => ?_
  split
  · exact keeps_skip still.isUnder (hindered ‹_›) ill
  · refine keeps_copyInStyle still (by simp [begun]) fun replies result copied => ?_
    match result with
    | .ok place =>
      exact keeps_copyFiles_nil (by simp [begun]) (copied.leaves place rfl)
        (copied.ended place rfl) well
    | .error (.reading errno) => exact keeps_skip copied.under (copied.hindered _ rfl) ill
    | .error (.writing errno) => exact keeps_giveUp copied.under (copied.hindered _ rfl)

/-! ### The tool -/

/-- The tool that copies its input does so in whatever style its options ask for: whatever the system
answers, and in whichever pieces, what was written is at every moment a part in front of what the
input becomes. If the tool exits well, the input was read to its end and all that it becomes was
written; and if nothing is refused and the input is no regular file, the tool exits well. -/
theorem cat_copiesInput {wishes : List Wish}
    (reads : copyOptions.table.read (given? launch "POSIXLY_CORRECT").isNone
      launch.arguments.tail = (wishes, []))
    (settles : copyOptions.settle copyOptions.initial wishes = .ok (.inl style)) :
    (cat.main launch).Keeps (CopiesInput style launch.lifetime) [] := by
  refine keeps_toolOf hindersCopy_of_isRefusal fun replies silent begun => ?_
  rw [runWithOptions_eq _ reads settles]
  refine ⟨.midway silent.isUnder, fun output => ?_⟩
  have described : IsSilent (replies ++ [⟨.describe 1, output⟩]) :=
    silent.append ⟨fun _ _ => rfl, fun _ => rfl⟩
  match output with
  | .error errno =>
    exact keeps_giveUp described.isUnder
      ⟨_, List.mem_append_right _ (List.mem_singleton_self _), trivial⟩
  | .ok state =>
    exact keeps_copyFiles described (by simp)
      (fun _ leaves ended => keeps_close hindersCopy_of_isRefusal (.done leaves ended) rfl
        fun _ => ⟨_, rfl⟩)
      (fun _ under hindered => keeps_close hindersCopy_of_isRefusal
        (.failed under hindered (by decide : (1 : UInt8) ≠ 0)) rfl fun _ => ⟨_, rfl⟩)

/-- Without options and operands, the tool copies its input as it is. -/
theorem cat_copies (alone : launch.arguments.tail = []) {replies : List Reply} {last : Program}
    (comes : (cat.main launch).Comes replies last) (short : replies.length ≤ launch.lifetime) :
    givenTo 1 replies <+: takenFrom 0 replies ∧
      (last.code? = some 0 → givenTo 1 replies = takenFrom 0 replies ∧
        ∃ reply ∈ replies, reply.IsEnd 0) ∧
      ∀ code, last.code? = some code → code ≠ 0 → ∃ reply ∈ replies, HindersCopy reply := by
  have reads : copyOptions.table.read (given? launch "POSIXLY_CORRECT").isNone
      launch.arguments.tail = ([], []) := by rw [alone]; rfl
  have keeps : (cat.main launch).Keeps (CopiesInput .plain launch.lifetime) [] :=
    cat_copiesInput reads rfl
  have promise := Program.keeps_iff.mp keeps replies last comes
  rw [List.nil_append] at promise
  refine ⟨?_, fun done => ⟨?_, (promise.whole done).2 short⟩, promise.hindered⟩
  · simpa only [copied_plain] using promise.part short
  · simpa only [copied_plain, List.append_nil] using (promise.whole done).1 short

end ShellSmoke.Tools
