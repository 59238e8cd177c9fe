/-
This file follows the octets that a run has collected to the text that is reported of them and to
the stream that a check prints it on. The text shows one character for each part of the one division
of the octets, so nothing but broken parts is lost: the text has the octets for its encoding exactly
if there are no such parts. A pass prints the encoding of the text and a newline, and therefore the
octets themselves exactly if they are well-formed.
-/

import ShellSmoke.Proofs.Exchange.Conservation
import ShellSmoke.Proofs.Harness
import ShellSmoke.Proofs.Text.Division

namespace ShellSmoke

variable {executable script : Bytes} {timeout : Duration} {inputCapacity outputCapacity : Nat}
  {reached : Exchange} {actions : List Exchange.Action} {output : String} {exitCode : Int}

/-! ### The text of a run -/

/-- The text of a completed run decodes what the run has collected. -/
theorem Exchange.output_eq_decode
    (played : (start executable script timeout inputCapacity outputCapacity).play? actions =
      some reached)
    (returned : reached.phase = .returned (.ok (.completed output exitCode))) :
    output = Text.decode reached.drain.collected := by
  have result : reached.result? = some (.ok (.completed output exitCode)) := by
    rw [result?, returned]
  exact (completionKept_play played output exitCode result).decoded

namespace Harness

open Text

variable {sink after : Sink}

/-! ### What a pass prints -/

/-- A pass prints the encoding of the output and a newline. -/
theorem accepted_of_passes
    (passes : present (.ok (.completed output exitCode)) sink = (.ok (), after)) :
    after.accepted = sink.accepted ++ (Bytes.ofString output ++ Bytes.ofString "\n") := by
  have presents : Presents (.completed output exitCode) sink (.ok ()) after := by
    have checks := checks_present (.ok (.completed output exitCode)) sink
    rw [passes] at checks
    exact checks
  obtain ⟨⟨_, same⟩, shown⟩ := presents.passes_iff.mp rfl
  have zero : exitCode = 0 := (Outcome.completed.inj same).2
  rw [shown.1, Outcome.transcript, if_pos zero, Bytes.ofString_append]

/-- A pass prints octets and a newline exactly if the octets are the encoding of the output. -/
theorem accepted_eq_iff {bytes : Bytes}
    (passes : present (.ok (.completed output exitCode)) sink = (.ok (), after)) :
    after.accepted = sink.accepted ++ (bytes ++ Bytes.ofString "\n") ↔
      Bytes.ofString output = bytes := by
  rw [accepted_of_passes passes, List.append_cancel_left_eq, List.append_cancel_right_eq]

/-! ### From the octets to the stream -/

/-- Octets divide in one way into encodings of characters and parts that are broken off as soon as
they lead to none, so before an octet that makes an overlong form, a surrogate or a value past
U+10FFFF of them, and decoding shows each of these by one character. So encoding undoes it exactly
for well-formed octets, doing it twice is doing it once, and octets may be decoded in two pieces
where the first is well-formed or the second does not begin in the middle of something. The output
of a completed run decodes what was collected, and a check that passes prints just that and a
newline exactly if it is well-formed. -/
theorem output_divides_collected :
    (∀ bytes, ∃! parts, Divides bytes parts) ∧
    (∀ bytes parts, Divides bytes parts →
      decode bytes = String.ofList (parts.map Segment.shown)) ∧
    (∀ byte, (Leads [byte] ↔ byte < 0x80 ∨ 0xC2 ≤ byte ∧ byte ≤ 0xF4) ∧
      (Leads [0xE0, byte] ↔ 0xA0 ≤ byte ∧ byte ≤ 0xBF) ∧
      (Leads [0xED, byte] ↔ 0x80 ≤ byte ∧ byte ≤ 0x9F) ∧
      (Leads [0xF0, byte] ↔ 0x90 ≤ byte ∧ byte ≤ 0xBF) ∧
      (Leads [0xF4, byte] ↔ 0x80 ≤ byte ∧ byte ≤ 0x8F)) ∧
    (∀ bytes, Bytes.ofString (decode bytes) = bytes ↔ WellFormed bytes) ∧
    (∀ bytes, decode (Bytes.ofString (decode bytes)) = decode bytes) ∧
    (∀ first second,
      (WellFormed first ∨ ∀ byte ∈ second.head?, ¬ (0x80 ≤ byte ∧ byte ≤ 0xBF)) →
      decode (first ++ second) = decode first ++ decode second) ∧
    ∀ executable script timeout inputCapacity outputCapacity actions reached output exitCode,
      (Exchange.start executable script timeout inputCapacity outputCapacity).play? actions =
        some reached →
      reached.phase = .returned (.ok (.completed output exitCode)) →
      output = decode reached.drain.collected ∧
      ∀ {World : Type} (runner : Runner World) (harness : Harness) (sink : Sink) (world : World)
        (after : Sink),
        (runner harness.job world).1.result = .ok (.completed output exitCode) →
        (harness.check runner sink world).1 = (.ok (), after) →
        (after.accepted =
            sink.accepted ++ (reached.drain.collected ++ Bytes.ofString "\n") ↔
          WellFormed reached.drain.collected) := by
  refine ⟨fun bytes => ?_, fun _ _ => decode_of_divides, fun byte => ?_,
    fun _ => ofString_decode_eq_iff, fun _ => decode_ofString _, fun _ _ => decode_append, ?_⟩
  · exact ⟨segments bytes, divides_iff.mpr rfl, fun _ divides => divides_iff.mp divides⟩
  · have overlongThree : followers 0xE0 = some [⟨0xA0, 0xBF⟩, continuation] := rfl
    have surrogate : followers 0xED = some [⟨0x80, 0x9F⟩, continuation] := rfl
    have overlongFour : followers 0xF0 = some [⟨0x90, 0xBF⟩, continuation, continuation] := rfl
    have beyond : followers 0xF4 = some [⟨0x80, 0x8F⟩, continuation, continuation] := rfl
    exact ⟨leads_singleton_iff, leads_pair_iff overlongThree, leads_pair_iff surrogate,
      leads_pair_iff overlongFour, leads_pair_iff beyond⟩
  intro _ _ _ _ _ _ reached output exitCode played returned
  have decoded : output = decode reached.drain.collected :=
    Exchange.output_eq_decode played returned
  refine ⟨decoded, fun runner harness sink world after completed passes => ?_⟩
  have presented : present (.ok (.completed output exitCode)) sink = (.ok (), after) := by
    rw [← completed]
    exact passes
  rw [accepted_eq_iff presented, decoded]
  exact ofString_decode_eq_iff

/-- A target writes a character and the beginning of a surrogate, in two pieces, and ends. -/
def surrogateRun : List Exchange.Action :=
  [.harness (.announce 7), .harness .openOutput, .harness .closeInput,
    .target (.write .standardOutput (.ofBytes [0xC3])), .harness (.read 1),
    .target (.write .standardOutput (.ofBytes [0xA9, 0xED, 0xA0])), .harness (.read 3),
    .target .closeOutput, .target .closeOutput, .target (.exit (.exited 0)), .harness .readEnd,
    .harness .reap, .harness .kill, .harness .bury]

theorem output_divides_collected_surrogate :
    ∃ reached output, (Exchange.start [] [] ⟨1000⟩ 4 4).play? surrogateRun = some reached ∧
      reached.phase = .returned (.ok (.completed output 0)) ∧
      reached.drain.collected = [0xC3, 0xA9, 0xED, 0xA0] ∧
      output = "é\uFFFD\uFFFD" ∧
      decode ([0xC3, 0xA9] ++ [0xED, 0xA0]) =
        decode [0xC3, 0xA9] ++ decode [0xED, 0xA0] ∧
      ∃ after, (check (fun _ world => (⟨.ok (.completed output 0), reached.log⟩, world))
          (default : Harness) default ()).1 = (.ok (), after) ∧
        after.accepted ≠ [0xC3, 0xA9, 0xED, 0xA0, 0x0A] := by
  obtain ⟨reached, output, after, played, returned, collected, passes⟩ :
      ∃ reached output after,
        (Exchange.start [] [] ⟨1000⟩ 4 4).play? surrogateRun = some reached ∧
        reached.phase = .returned (.ok (.completed output 0)) ∧
        reached.drain.collected = [0xC3, 0xA9, 0xED, 0xA0] ∧
        (check (fun _ world => (⟨.ok (.completed output 0), reached.log⟩, world))
          (default : Harness) default ()).1 = (.ok (), after) :=
    ⟨_, _, _, rfl, rfl, rfl, rfl⟩
  obtain ⟨_, shows, _, keeps, _, splits, runs⟩ := output_divides_collected
  have divided : Divides [0xC3, 0xA9, 0xED, 0xA0]
      [.sequence 'é', .broken [0xED], .broken [0xA0]] := divides_iff.mpr (by decide)
  have broken : ¬ WellFormed [0xC3, 0xA9, 0xED, 0xA0] := fun whole =>
    absurd ((keeps _).mpr whole) (by decide)
  obtain ⟨decoded, prints⟩ := runs [] [] ⟨1000⟩ 4 4 surrogateRun reached output 0 played returned
  rw [collected] at decoded prints
  refine ⟨reached, output, played, returned, collected, decoded.trans (shows _ _ divided),
    splits _ _ (.inl ⟨['é'], by decide⟩), after, passes, fun same => ?_⟩
  exact broken ((prints _ default default () after rfl passes).mp same)

end Harness

end ShellSmoke
