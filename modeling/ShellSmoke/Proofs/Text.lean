/-
This file proves that decoding undoes encoding. The encoding of a character is an octet that leads a
sequence, followed by octets from just the ranges that the lead asks for, and its payload is the
number of the character; so a decoder that stands between two sequences decides that character and
stands between two sequences again. Where in the bytes the pieces of an output begin and end
therefore does not matter once they are joined.
-/

import Mathlib.Data.List.Forall2
import ShellSmoke.Text.Lossy

namespace ShellSmoke

theorem Bytes.ofString_append (first second : String) :
    ofString (first ++ second) = ofString first ++ ofString second := by
  rw [ofString, String.toList_append, List.flatMap_append]
  rfl

namespace Text

/-! ### Octets by number -/

theorem holds_ofNat_iff {range : OctetRange} {number : Nat} (small : number < 256) :
    range.holds (UInt8.ofNat number) = true ↔
      range.low.toNat ≤ number ∧ number ≤ range.high.toNat := by
  rw [OctetRange.holds, Bool.and_eq_true, decide_eq_true_iff, decide_eq_true_iff,
    UInt8.le_iff_toNat_le, UInt8.le_iff_toNat_le, UInt8.toNat_ofNat_of_lt' small]

theorem followers_ofNat {number : Nat} (small : number < 256) :
    followers (UInt8.ofNat number) =
      if number < 0x80 then some []
      else if number < 0xC2 then none
      else if number < 0xE0 then some [continuation]
      else if number = 0xE0 then some [⟨0xA0, 0xBF⟩, continuation]
      else if number = 0xED then some [⟨0x80, 0x9F⟩, continuation]
      else if number < 0xF0 then some [continuation, continuation]
      else if number = 0xF0 then some [⟨0x90, 0xBF⟩, continuation, continuation]
      else if number < 0xF4 then some [continuation, continuation, continuation]
      else if number = 0xF4 then some [⟨0x80, 0x8F⟩, continuation, continuation]
      else none := by
  unfold followers
  simp only [UInt8.lt_iff_toNat_lt, ← UInt8.toNat_inj, UInt8.toNat_ofNat_of_lt' small]
  rfl

theorem leadValue_ofNat {number : Nat} (small : number < 256) :
    leadValue (UInt8.ofNat number) =
      if number < 0x80 then number
      else if number < 0xE0 then number - 0xC0
      else if number < 0xF0 then number - 0xE0
      else number - 0xF0 := by
  unfold leadValue
  simp only [UInt8.lt_iff_toNat_lt, UInt8.toNat_ofNat_of_lt' small]
  rfl

theorem holds_continuation (number : Nat) :
    continuation.holds (UInt8.ofNat (number % 64 + 128)) = true := by
  refine (holds_ofNat_iff (by omega)).mpr ?_
  show 128 ≤ _ ∧ _ ≤ 191
  omega

theorem exists_followers_three {high : Nat} (small : high < 16) :
    ∃ range, followers (UInt8.ofNat (high + 224)) = some [range, continuation] ∧
      range.low.toNat = (if high = 0 then 160 else 128) ∧
      range.high.toNat = (if high = 13 then 159 else 191) := by
  rw [followers_ofNat (by omega), if_neg (by omega), if_neg (by omega), if_neg (by omega)]
  by_cases first : high = 0
  · subst first
    exact ⟨_, rfl, rfl, rfl⟩
  rw [if_neg (by omega)]
  by_cases surrogates : high = 13
  · subst surrogates
    exact ⟨_, rfl, rfl, rfl⟩
  rw [if_neg (by omega), if_pos (by omega), if_neg first, if_neg surrogates]
  exact ⟨_, rfl, rfl, rfl⟩

theorem exists_followers_four {high : Nat} (small : high < 5) :
    ∃ range, followers (UInt8.ofNat (high + 240)) = some [range, continuation, continuation] ∧
      range.low.toNat = (if high = 0 then 144 else 128) ∧
      range.high.toNat = (if high = 4 then 143 else 191) := by
  rw [followers_ofNat (by omega), if_neg (by omega), if_neg (by omega), if_neg (by omega),
    if_neg (by omega), if_neg (by omega), if_neg (by omega)]
  by_cases first : high = 0
  · subst first
    exact ⟨_, rfl, rfl, rfl⟩
  rw [if_neg (by omega), if_neg first]
  by_cases last : high = 4
  · subst last
    exact ⟨_, rfl, rfl, rfl⟩
  rw [if_pos (by omega), if_neg last]
  exact ⟨_, rfl, rfl, rfl⟩

/-! ### Encodings -/

/-- The number that octets add to the payload of their lead. -/
def valueAfter (value : Nat) (bytes : Bytes) : Nat :=
  bytes.foldl (fun value byte => value * 64 + (byte.toNat - 0x80)) value

/-- The encoding of a character is an octet that leads a sequence and what that octet asks for, and
its payload is the number of the character. -/
theorem exists_utf8EncodeChar_eq (char : Char) :
    ∃ lead rest ranges, String.utf8EncodeChar char = lead :: rest ∧
      followers lead = some ranges ∧
      List.Forall₂ (fun range byte => range.holds byte = true) ranges rest ∧
      valueAfter (leadValue lead) rest = char.toNat := by
  have valid : char.toNat < 0xD800 ∨ 0xDFFF < char.toNat ∧ char.toNat < 0x110000 := char.valid
  unfold String.utf8EncodeChar
  rw [show char.val.toNat = char.toNat from rfl]
  have payload (high : Nat) : (UInt8.ofNat (high % 64 + 128)).toNat - 0x80 = high % 64 := by
    rw [UInt8.toNat_ofNat_of_lt' (show _ < 256 by omega), Nat.add_sub_cancel]
  by_cases one : char.toNat ≤ 127
  · rw [if_pos one]
    refine ⟨_, _, _, rfl, ?_, .nil, ?_⟩
    · exact (followers_ofNat (by omega)).trans (if_pos (by omega))
    · exact (leadValue_ofNat (by omega)).trans (if_pos (by omega))
  rw [if_neg one]
  by_cases two : char.toNat ≤ 2047
  · rw [if_pos two]
    refine ⟨_, _, [continuation], rfl, ?_, .cons (holds_continuation _) .nil, ?_⟩
    · rw [followers_ofNat (by omega), if_neg (by omega), if_neg (by omega), if_pos (by omega)]
    · rw [leadValue_ofNat (by omega), if_neg (by omega), if_pos (by omega)]
      simp only [valueAfter, List.foldl_cons, List.foldl_nil, payload]
      omega
  rw [if_neg two]
  by_cases three : char.toNat ≤ 65535
  · rw [if_pos three]
    obtain ⟨range, follows, low, high⟩ :=
      exists_followers_three (show char.toNat / 4096 % 16 < 16 by omega)
    refine ⟨_, _, _, rfl, follows, .cons ?_ (.cons (holds_continuation _) .nil), ?_⟩
    · rw [holds_ofNat_iff (by omega), low, high]
      constructor <;> split <;> omega
    · rw [leadValue_ofNat (by omega), if_neg (by omega), if_neg (by omega), if_pos (by omega)]
      simp only [valueAfter, List.foldl_cons, List.foldl_nil, payload]
      omega
  · rw [if_neg three]
    obtain ⟨range, follows, low, high⟩ :=
      exists_followers_four (show char.toNat / 262144 % 8 < 5 by omega)
    refine ⟨_, _, _, rfl, follows,
      .cons ?_ (.cons (holds_continuation _) (.cons (holds_continuation _) .nil)), ?_⟩
    · rw [holds_ofNat_iff (by omega), low, high]
      constructor <;> split <;> omega
    · rw [leadValue_ofNat (by omega), if_neg (by omega), if_neg (by omega), if_neg (by omega)]
      simp only [valueAfter, List.foldl_cons, List.foldl_nil, payload]
      omega

/-! ### Decoding of encodings -/

namespace Decoder

/-- A decoder that is fed what it waits for decides a sequence. -/
theorem foldl_feed_of_holds {ranges : List OctetRange} {bytes : Bytes} (decoder : Decoder)
    (awaits : decoder.awaited = ranges) (waiting : ranges ≠ [])
    (holds : List.Forall₂ (fun range byte => range.holds byte = true) ranges bytes) :
    bytes.foldl feed decoder =
      decoder.decide (.sequence (Char.ofNat (valueAfter decoder.value bytes))) := by
  induction holds generalizing decoder with
  | nil => exact absurd rfl waiting
  | cons first later inductionHypothesis =>
    rw [List.foldl_cons, feed, awaits]
    dsimp only
    rw [if_pos first]
    cases later with
    | nil => rfl
    | cons next others =>
      rw [if_neg (by simp), inductionHypothesis _ rfl (List.cons_ne_nil _ _)]
      simp only [decide, valueAfter, List.foldl_cons]

theorem foldl_feed_utf8EncodeChar (decided : List Segment) (char : Char) :
    (String.utf8EncodeChar char).foldl feed ⟨decided, [], 0, []⟩ =
      ⟨.sequence char :: decided, [], 0, []⟩ := by
  obtain ⟨lead, rest, ranges, same, follows, holds, value⟩ := exists_utf8EncodeChar_eq char
  have decides (decoder : Decoder) (decidedSame : decoder.decided = decided) :
      decoder.decide (.sequence (Char.ofNat (valueAfter (leadValue lead) rest))) =
        ⟨.sequence char :: decided, [], 0, []⟩ := by
    rw [value, Char.ofNat_toNat, decide, decidedSame]
  rw [same, List.foldl_cons, feed]
  show rest.foldl feed (begin _ lead) = _
  rw [begin, follows]
  cases holds with
  | nil => exact decides _ rfl
  | cons first later =>
    dsimp only
    exact (foldl_feed_of_holds ⟨decided, [lead], leadValue lead, _⟩ rfl (List.cons_ne_nil _ _)
      (.cons first later)).trans (decides _ rfl)

theorem foldl_feed_flatMap (decided : List Segment) (chars : List Char) :
    (chars.flatMap String.utf8EncodeChar).foldl feed ⟨decided, [], 0, []⟩ =
      ⟨(chars.map .sequence).reverse ++ decided, [], 0, []⟩ := by
  induction chars generalizing decided with
  | nil => rfl
  | cons char chars inductionHypothesis =>
    rw [List.flatMap_cons, List.foldl_append, foldl_feed_utf8EncodeChar, inductionHypothesis,
      List.map_cons, List.reverse_cons, List.append_assoc, List.singleton_append]

end Decoder

theorem segments_ofString (text : String) :
    segments (Bytes.ofString text) = text.toList.map .sequence := by
  unfold segments Bytes.ofString Decoder.start
  rw [Decoder.foldl_feed_flatMap, List.append_nil]
  exact List.reverse_reverse _

/-- Decoding undoes encoding. -/
theorem decode_ofString (text : String) : decode (Bytes.ofString text) = text := by
  have shown : Segment.shown ∘ Segment.sequence = id := rfl
  rw [decode, decodeChars, segments_ofString, List.map_map, shown, List.map_id,
    String.ofList_toList]

/-- A byte string is read as a text exactly if it is the encoding of the text. -/
theorem decodeStrict?_eq_some_iff {bytes : Bytes} {text : String} :
    decodeStrict? bytes = some text ↔ bytes = Bytes.ofString text := by
  unfold decodeStrict?
  constructor
  · intro decoded
    rw [Option.ite_none_right_eq_some] at decoded
    obtain ⟨same, decodes⟩ := decoded
    rw [← Option.some.inj decodes, same]
  · rintro rfl
    dsimp only
    rw [decode_ofString, if_pos rfl]

end Text

end ShellSmoke
