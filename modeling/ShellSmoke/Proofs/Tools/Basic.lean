/-
This file proves what the small programs of the system have in common. Loading a tool and complaining
leave its input and its output alone. A text that is changed on its way from one descriptor to
another arrives as if it had come in one piece, provided that the change itself does not depend on
the pieces.
-/

import ShellSmoke.Proofs.Machine.Programs
import ShellSmoke.Tools.Basic

namespace ShellSmoke.Tools

open Machine

variable {promise : List Reply → Option UInt8 → Prop}

/-! ### Messages -/

/-- Whether nothing was read, and nothing was written but messages. -/
structure IsSilent (replies : List Reply) : Prop where
  given : ∀ target, target ≠ 2 → givenTo target replies = []
  taken : ∀ source, takenFrom source replies = []

theorem IsSilent.of_writes {bytes : Bytes} {replies : List Reply}
    (writes : Writes 2 bytes replies) : IsSilent replies :=
  ⟨writes.silent, writes.taken⟩

theorem IsSilent.append {first second : List Reply} (silent : IsSilent first)
    (later : IsSilent second) : IsSilent (first ++ second) where
  given target differs := by simp [silent.given target differs, later.given target differs]
  taken source := by simp [silent.taken source, later.taken source]

theorem keeps_complain {launch : Launch} {text : Bytes} {next : Unit → Program}
    {history : List Reply}
    (meanwhile : ∀ replies, IsSilent replies → promise (history ++ replies) none)
    (afterwards : ∀ replies, IsSilent replies → (next ()).Keeps promise (history ++ replies)) :
    (complain launch text next).Keeps promise history :=
  keeps_writeAll launch.lifetime _ history
    (fun replies writes => meanwhile replies (.of_writes writes))
    (fun replies _ wrote => afterwards replies (.of_writes wrote.toWrites))

/-! ### What tools promise -/

/-- Whether something hinders a tool. -/
def IsHindered (hinders : Reply → Prop) (replies : List Reply) : Prop :=
  ∃ reply ∈ replies, hinders reply

/-- Whether the output is a part in front of what the input becomes. -/
def IsUnder (becomes : Bytes → Bytes) (lifetime : Nat) (replies : List Reply) : Prop :=
  replies.length ≤ lifetime → givenTo 1 replies <+: becomes (takenFrom 0 replies)

/-- Whether the output is what the input becomes, but for a rest. -/
def Leaves (becomes : Bytes → Bytes) (lifetime : Nat) (rest : Bytes) (replies : List Reply) :
    Prop :=
  replies.length ≤ lifetime → givenTo 1 replies ++ rest = becomes (takenFrom 0 replies)

/-- Whether the input was read to its end. -/
def IsEnded (lifetime : Nat) (replies : List Reply) : Prop :=
  replies.length ≤ lifetime → ∃ reply ∈ replies, reply.IsEnd 0

/-- What a tool promises that makes an output of its input: the output is never anything but a part
in front of what the input becomes; if the tool exits well, the output is all of that; and only what
hinders it keeps the tool from exiting well. The lifetime is the number of requests for which that
holds. -/
structure Renders (becomes : Bytes → Bytes) (hinders : Reply → Prop) (lifetime : Nat)
    (replies : List Reply) (code? : Option UInt8) : Prop where
  part : IsUnder becomes lifetime replies
  whole : code? = some 0 → Leaves becomes lifetime [] replies ∧ IsEnded lifetime replies
  hindered : ∀ code, code? = some code → code ≠ 0 → IsHindered hinders replies

section

variable {becomes : Bytes → Bytes} {hinders : Reply → Prop} {launch : Launch} {lifetime : Nat}
  {rest : Bytes} {replies more : List Reply}

theorem IsHindered.append (hindered : IsHindered hinders replies) (more : List Reply) :
    IsHindered hinders (replies ++ more) := by
  obtain ⟨reply, member, hindrance⟩ := hindered
  exact ⟨reply, List.mem_append_left _ member, hindrance⟩

theorem IsUnder.append (under : IsUnder becomes lifetime replies) (silent : IsSilent more) :
    IsUnder becomes lifetime (replies ++ more) := by
  intro short
  rw [List.length_append] at short
  simpa [silent.given 1, silent.taken] using under (by omega)

theorem Leaves.append (leaves : Leaves becomes lifetime rest replies) (silent : IsSilent more) :
    Leaves becomes lifetime rest (replies ++ more) := by
  intro short
  rw [List.length_append] at short
  simpa [silent.given 1, silent.taken] using leaves (by omega)

theorem IsEnded.append (ended : IsEnded lifetime replies) (more : List Reply) :
    IsEnded lifetime (replies ++ more) := by
  intro short
  rw [List.length_append] at short
  obtain ⟨reply, member, ending⟩ := ended (by omega)
  exact ⟨reply, List.mem_append_left _ member, ending⟩

/-- What is written of the rest is a part in front of it. -/
theorem Leaves.isUnder (leaves : Leaves becomes lifetime rest replies)
    (writes : Writes 1 rest more) : IsUnder becomes lifetime (replies ++ more) := by
  intro short
  rw [List.length_append] at short
  rw [givenTo_append, takenFrom_append, writes.taken, List.append_nil, ← leaves (by omega)]
  exact (List.prefix_append_right_inj _).mpr writes.given

/-- Before anything is written, the output is a part of whatever it will be. -/
theorem IsSilent.isUnder (silent : IsSilent replies) : IsUnder becomes lifetime replies := by
  intro _
  rw [silent.given 1 nofun]
  exact List.nil_prefix

theorem Renders.midway (under : IsUnder becomes lifetime replies) :
    Renders becomes hinders lifetime replies none :=
  ⟨under, nofun, nofun⟩

theorem Renders.done (leaves : Leaves becomes lifetime [] replies)
    (ended : IsEnded lifetime replies) : Renders becomes hinders lifetime replies (some 0) where
  part := by simpa using leaves.isUnder (.nil 1 [])
  whole _ := ⟨leaves, ended⟩
  hindered _ same differs := absurd (Option.some.inj same).symm differs

theorem Renders.failed {code : UInt8} (under : IsUnder becomes lifetime replies)
    (hindered : IsHindered hinders replies) (differs : code ≠ 0) :
    Renders becomes hinders lifetime replies (some code) :=
  ⟨under, fun same => absurd (Option.some.inj same) differs, fun _ _ _ => hindered⟩

theorem Renders.append {code? : Option UInt8} (promise : Renders becomes hinders lifetime replies code?)
    (silent : IsSilent more) : Renders becomes hinders lifetime (replies ++ more) code? where
  part := promise.part.append silent
  whole done := ⟨(promise.whole done).1.append silent, (promise.whole done).2.append more⟩
  hindered code same differs := (promise.hindered code same differs).append more

/-- A tool that gives up complains, and exits with a failure. -/
theorem keeps_giveUp {text : Bytes} (under : IsUnder becomes lifetime replies)
    (hindered : IsHindered hinders replies) :
    (complain launch text fun _ => .exit 1).Keeps (Renders becomes hinders lifetime) replies :=
  keeps_complain (fun _ silent => .midway (under.append silent))
    (fun more silent => .failed (under.append silent) (hindered.append more) nofun)

/-- Nothing is left when the rest was written. -/
theorem keeps_writeRest {next : Except Errno Unit → Program}
    (refusals : ∀ reply : Reply, reply.IsRefusal → hinders reply) (begun : replies ≠ [])
    (leaves : Leaves becomes lifetime rest replies)
    (written : ∀ more, Leaves becomes lifetime [] (replies ++ more) →
      (next (.ok ())).Keeps (Renders becomes hinders lifetime) (replies ++ more))
    (refused : ∀ errno more, IsUnder becomes lifetime (replies ++ more) →
      IsHindered hinders (replies ++ more) →
      (next (.error errno)).Keeps (Renders becomes hinders lifetime) (replies ++ more)) :
    (Routine.writeAll 1 lifetime rest next).Keeps (Renders becomes hinders lifetime) replies := by
  have positive : 0 < replies.length := List.length_pos_iff.mpr begun
  refine keeps_writeAll lifetime rest replies (fun more writes => .midway (leaves.isUnder writes))
    (fun more result wrote => ?_)
  match result with
  | .error errno =>
    obtain ⟨reply, member, refusal⟩ := wrote.refused errno rfl
    exact refused errno more (leaves.isUnder wrote.toWrites)
      ⟨reply, List.mem_append_right _ member, refusals reply refusal⟩
  | .ok () =>
    refine written more fun short => ?_
    rw [List.length_append] at short
    rw [givenTo_append, takenFrom_append, wrote.taken, List.append_nil, List.append_nil,
      wrote.whole rfl (by omega), leaves (by omega)]

/-- A tool that is about to exit closes its input before that. -/
theorem keeps_close {next : Except Errno Unit → Program} {code : UInt8}
    (refusals : ∀ reply : Reply, reply.IsRefusal → hinders reply)
    (promise : Renders becomes hinders lifetime replies (some code))
    (closed : next (.ok ()) = .exit code)
    (complains : ∀ errno, ∃ text, next (.error errno) = complain launch text fun _ => .exit 1) :
    (Routine.close 0 next).Keeps (Renders becomes hinders lifetime) replies := by
  refine ⟨.midway promise.part, fun answer => ?_⟩
  have silent : IsSilent [⟨.close 0, answer⟩] := ⟨fun _ _ => rfl, fun _ => rfl⟩
  match answer with
  | .ok () =>
    rw [closed]
    exact promise.append silent
  | .error errno =>
    obtain ⟨text, complaint⟩ := complains errno
    rw [complaint]
    exact keeps_giveUp (promise.part.append silent)
      ⟨_, List.mem_append_right _ (List.mem_singleton_self _), refusals _ trivial⟩

end

/-! ### Loading -/

/-- A tool is loaded before it works, and exits with a failure if that is refused. -/
theorem keeps_toolOf {becomes : Bytes → Bytes} {hinders : Reply → Prop} {lifetime : Nat}
    {name : String} {work : Launch → Routine UInt8} {launch : Launch}
    (refusals : ∀ reply : Reply, reply.IsRefusal → hinders reply)
    (works : ∀ replies, IsSilent replies → replies ≠ [] →
      (work launch fun code => .exit code).Keeps (Renders becomes hinders lifetime) replies) :
    ((toolOf name work).main launch).Keeps (Renders becomes hinders lifetime) [] := by
  refine ⟨.midway fun _ => List.nil_prefix, fun answer => ?_⟩
  match answer with
  | .error errno =>
    have silent : IsSilent [⟨.openFile (Bytes.ofString "/") .reading, .error errno⟩] :=
      ⟨fun _ _ => rfl, fun _ => rfl⟩
    refine keeps_writeAll launch.lifetime _ _
      (fun replies writes => .midway (silent.append (.of_writes writes)).isUnder)
      (fun replies _ wrote => ?_)
    exact .failed (silent.append (.of_writes wrote.toWrites)).isUnder
      ⟨_, List.mem_append_left _ (List.mem_singleton_self _), refusals _ trivial⟩ nofun
  | .ok descriptor =>
    refine ⟨.midway (IsSilent.isUnder ⟨fun _ _ => rfl, fun _ => rfl⟩), fun closed => ?_⟩
    exact works _ ⟨fun _ _ => rfl, fun _ => rfl⟩ nofun

/-! ### Options -/

/-- With options that make sense, a tool does its work. -/
theorem runWithOptions_eq {Setting : Type} {name : String} {refused : UInt8}
    {reader : OptionReader Setting} {launch : Launch} {words operands : List Bytes}
    {wishes : List Wish} {setting : Setting} (work : Setting → List Bytes → Routine UInt8)
    (reads : reader.table.read (given? launch "POSIXLY_CORRECT").isNone words =
      (wishes, operands))
    (settles : reader.settle reader.initial wishes = .ok (.inl setting)) :
    runWithOptions name refused reader launch words work = work setting operands := by
  unfold runWithOptions
  simp only [reads, settles]

/-! ### Reading to the end -/

/-- What was seen when a descriptor was read to its end, or that was given up. -/
structure ReadToEnd (descriptor lifetime : Nat) (fault : Option Errno) (replies : List Reply) :
    Prop where
  given : ∀ target, givenTo target replies = []
  whole : fault = none → replies.length < lifetime → ∃ reply ∈ replies, reply.IsEnd descriptor
  refused : fault ≠ none → ∃ reply ∈ replies, reply.IsRefusal

section

variable {descriptor lifetime limit : Nat} {replies : List Reply}

theorem readToEnd_nil : ReadToEnd descriptor 0 none [] :=
  ⟨fun _ => rfl, fun _ => nofun, fun fails => absurd rfl fails⟩

theorem readToEnd_error {errno : Errno} :
    ReadToEnd descriptor lifetime (some errno) [⟨.read descriptor limit, .error errno⟩] :=
  ⟨fun _ => rfl, nofun, fun _ => ⟨_, List.mem_singleton_self _, trivial⟩⟩

theorem readToEnd_end :
    ReadToEnd descriptor lifetime none [⟨.read descriptor limit, .ok []⟩] :=
  ⟨fun _ => rfl, fun _ _ => ⟨_, List.mem_singleton_self _, rfl, rfl⟩, fun fails => absurd rfl fails⟩

/-- A chunk that was read goes in front of what is read afterwards. -/
theorem ReadToEnd.cons {fault : Option Errno} {chunk : Bytes}
    (reads : ReadToEnd descriptor lifetime fault replies) :
    ReadToEnd descriptor (lifetime + 1) fault
      (⟨.read descriptor limit, .ok chunk⟩ :: replies) where
  given target := by rw [givenTo_cons, reads.given target]; rfl
  whole done short := by
    obtain ⟨reply, member, ending⟩ := reads.whole done (Nat.lt_of_succ_lt_succ short)
    exact ⟨reply, List.mem_cons_of_mem _ member, ending⟩
  refused fails := by
    obtain ⟨reply, member, refusal⟩ := reads.refused fails
    exact ⟨reply, List.mem_cons_of_mem _ member, refusal⟩

end

/-! ### Copying with changes -/

/-- Whether a change of a text does not depend on the pieces in which the text comes. -/
structure IsSteady {State : Type} (change : State → Bytes → Bytes × State) : Prop where
  nothing : ∀ state, change state [] = ([], state)
  append : ∀ state first second, change state (first ++ second) =
    ((change state first).1 ++ (change (change state first).2 second).1,
      (change (change state first).2 second).2)

/-- A text that is not changed is steady. -/
theorem isSteady_same : IsSteady fun () (text : Bytes) => (text, ()) :=
  ⟨fun _ => rfl, fun _ _ _ => rfl⟩

variable {State : Type} {change : State → Bytes → Bytes × State}

/-- What is seen while a descriptor is copied with a change: at every moment the output is a part in
front of what the input becomes. -/
def Copies (change : State → Bytes → Bytes × State) (descriptor lifetime : Nat) (state : State)
    (replies : List Reply) : Prop :=
  replies.length < lifetime →
    givenTo 1 replies <+: (change state (takenFrom descriptor replies)).1

/-- What was seen when a descriptor was copied to its end, or that was given up. -/
structure Copied (change : State → Bytes → Bytes × State) (descriptor lifetime : Nat)
    (state : State) (result : Except CopyFault State) (replies : List Reply) : Prop where
  part : Copies change descriptor lifetime state replies
  whole : ∀ last, result = .ok last → replies.length < lifetime →
    change state (takenFrom descriptor replies) = (givenTo 1 replies, last) ∧
      ∃ reply ∈ replies, reply.IsEnd descriptor
  refused : ∀ fault, result = .error fault → ∃ reply ∈ replies, reply.IsRefusal

variable {descriptor lifetime limit : Nat} {state : State} {chunk : Bytes}
  {written replies : List Reply}

/-- A chunk that was read and written goes in front of what is copied afterwards. -/
theorem copies_append (steady : IsSteady change)
    (wrote : Wrote 1 (change state chunk).1 (lifetime + 1) (.ok ()) written)
    (copies : Copies change descriptor lifetime (change state chunk).2 replies) :
    Copies change descriptor (lifetime + 1) state
      (⟨.read descriptor limit, .ok chunk⟩ :: (written ++ replies)) := by
  intro short
  simp only [List.length_cons, List.length_append] at short
  have whole := wrote.whole rfl (by omega)
  have rest := copies (by omega)
  simp only [givenTo_cons, givenTo_append, takenFrom_cons, takenFrom_append, wrote.taken,
    Reply.given, Reply.taken, if_true, List.nil_append, steady.append, whole]
  exact (List.prefix_append_right_inj _).mpr rest

theorem copied_append (steady : IsSteady change) {result : Except CopyFault State}
    (wrote : Wrote 1 (change state chunk).1 (lifetime + 1) (.ok ()) written)
    (copied : Copied change descriptor lifetime (change state chunk).2 result replies) :
    Copied change descriptor (lifetime + 1) state result
      (⟨.read descriptor limit, .ok chunk⟩ :: (written ++ replies)) where
  part := copies_append steady wrote copied.part
  whole last done short := by
    simp only [List.length_cons, List.length_append] at short
    obtain ⟨whole, reply, member, ending⟩ := copied.whole last done (by omega)
    refine ⟨?_, reply, List.mem_cons_of_mem _ (List.mem_append_right _ member), ending⟩
    simp [wrote.taken, Reply.given, Reply.taken, steady.append, whole, wrote.whole rfl (by omega)]
  refused fault failed := by
    obtain ⟨reply, member, refusal⟩ := copied.refused fault failed
    exact ⟨reply, List.mem_cons_of_mem _ (List.mem_append_right _ member), refusal⟩

/-- Whoever copies a descriptor with a steady change writes what all of its bytes become. -/
theorem keeps_copyThrough (steady : IsSteady change) {next : Except CopyFault State → Program}
    (lifetime : Nat) (state : State) (history : List Reply)
    (meanwhile : ∀ replies, Copies change descriptor lifetime state replies →
      promise (history ++ replies) none)
    (afterwards : ∀ replies result, Copied change descriptor lifetime state result replies →
      (next result).Keeps promise (history ++ replies)) :
    (copyThrough change descriptor lifetime state next).Keeps promise history := by
  induction lifetime generalizing state history with
  | zero =>
    refine (List.append_nil history ▸ afterwards [] (.ok state) ?_)
    exact ⟨fun fewer => absurd fewer (Nat.not_lt_zero _), fun _ _ fewer =>
      absurd fewer (Nat.not_lt_zero _), fun _ eq => by cases eq⟩
  | succ lifetime inductionHypothesis =>
    have initial : Copies change descriptor (lifetime + 1) state [] :=
      fun _ => List.nil_prefix
    refine ⟨by simpa using meanwhile [] initial, fun answer => ?_⟩
    rcases answer with errno | (_ | ⟨byte, bytes⟩)
    · refine afterwards [⟨.read descriptor chunkSize, .error errno⟩] _
        ⟨?_, fun _ eq => (by cases eq), ?_⟩
      · exact fun _ => List.nil_prefix
      · exact fun _ _ => ⟨_, List.mem_singleton_self _, trivial⟩
    · refine afterwards [⟨.read descriptor chunkSize, .ok []⟩] _ ⟨?_, ?_, fun _ eq => by cases eq⟩
      · exact fun _ => List.nil_prefix
      · rintro _ ⟨⟩ _
        refine ⟨?_, _, List.mem_singleton_self _, rfl, rfl⟩
        simp [Reply.taken, Reply.given, steady.nothing]
    · refine keeps_writeAll (lifetime + 1) _ _ (fun written writes => ?_)
        (fun written result wrote => ?_)
      · rw [List.append_assoc]
        refine meanwhile _ fun _ => ?_
        simpa [writes.taken, Reply.given, Reply.taken] using writes.given
      rcases result with errno | _
      · rw [List.append_assoc]
        refine afterwards _ _ ⟨fun _ => ?_, fun _ eq => (by cases eq), fun _ _ => ?_⟩
        · simpa [wrote.taken, Reply.given, Reply.taken] using wrote.given
        · obtain ⟨reply, member, refusal⟩ := wrote.refused errno rfl
          exact ⟨reply, List.mem_append_right _ member, refusal⟩
      · refine inductionHypothesis _ _ (fun replies copies => ?_)
          (fun replies result copied => ?_)
        · simpa [List.append_assoc] using meanwhile _ (copies_append steady wrote copies)
        · simpa [List.append_assoc] using afterwards _ _ (copied_append steady wrote copied)

end ShellSmoke.Tools
