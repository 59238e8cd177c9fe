/-
This file proves that the decoder divides bytes as the standard has it. A part leads to a character
exactly if its octets are what its lead asks for, as far as it goes, because octets that are what a
lead asks for are the encoding of a character, and any part of them can be filled up. A decoder that
has begun a part therefore goes on just as long as the part leads on, and where it stops it starts
over with the octet that broke the part off. So every byte string is divided in one way, which the
decoder finds. How two byte strings are divided says how they are divided together, unless the
second begins with an octet that could go on with the end of the first.
-/

import ShellSmoke.Proofs.Text
import ShellSmoke.Text.Division

namespace ShellSmoke.Text

variable {lead byte : UInt8} {bytes part rest first second : Bytes} {ranges : List OctetRange}
  {parts more : List Segment}

/-! ### What a lead asks for -/

/-- Whether octets are what some ranges ask for, in order. -/
abbrev Fills (ranges : List OctetRange) (rest : Bytes) : Prop :=
  List.Forall₂ (fun range byte => range.holds byte = true) ranges rest

theorem holds_iff {range : OctetRange} :
    range.holds byte = true ↔ range.low.toNat ≤ byte.toNat ∧ byte.toNat ≤ range.high.toNat := by
  have number : range.holds (UInt8.ofNat byte.toNat) = true ↔ _ := holds_ofNat_iff byte.toNat_lt
  rwa [UInt8.ofNat_toNat] at number

/-- All that leads ask for are octets that continue a sequence, and there are such octets. -/
theorem holds_low (follows : followers lead = some ranges) :
    ∀ range ∈ ranges, range.holds range.low = true ∧ 0x80 ≤ range.low ∧ range.high ≤ 0xBF := by
  unfold followers at follows
  split_ifs at follows <;> cases follows <;> decide

/-- An octet leads nothing, or one octet, or two, three or four. -/
theorem followers_cases (lead : UInt8) :
    followers lead = none ∨ (lead.toNat < 128 ∧ followers lead = some []) ∨
      (∃ high, 2 ≤ high ∧ high < 32 ∧ lead = UInt8.ofNat (high + 192) ∧
        followers lead = some [continuation]) ∨
      (∃ high < 16, lead = UInt8.ofNat (high + 224)) ∨
      ∃ high < 5, lead = UInt8.ofNat (high + 240) := by
  have number : lead = UInt8.ofNat lead.toNat := UInt8.ofNat_toNat.symm
  have follows := followers_ofNat lead.toNat_lt
  rw [← number] at follows
  by_cases one : lead.toNat < 128
  · rw [if_pos one] at follows
    exact .inr (.inl ⟨one, follows⟩)
  by_cases stray : lead.toNat < 194
  · rw [if_neg one, if_pos stray] at follows
    exact .inl follows
  by_cases two : lead.toNat < 224
  · rw [if_neg one, if_neg stray, if_pos two] at follows
    refine .inr (.inr (.inl ⟨lead.toNat - 192, by omega, by omega, ?_, follows⟩))
    rw [Nat.sub_add_cancel (by omega)]
    exact number
  by_cases three : lead.toNat < 240
  · refine .inr (.inr (.inr (.inl ⟨lead.toNat - 224, by omega, ?_⟩)))
    rw [Nat.sub_add_cancel (by omega)]
    exact number
  by_cases four : lead.toNat < 245
  · refine .inr (.inr (.inr (.inr ⟨lead.toNat - 240, by omega, ?_⟩)))
    rw [Nat.sub_add_cancel (by omega)]
    exact number
  · repeat rw [if_neg (by omega)] at follows
    exact .inl follows

/-! ### Filled sequences are encodings -/

/-- The octet of six bits that continue a sequence. -/
def tail (bits : Nat) : UInt8 := UInt8.ofNat (bits + 128)

theorem exists_bits {range : OctetRange} (follows : followers lead = some ranges)
    (member : range ∈ ranges) (holds : range.holds byte = true) :
    ∃ bits < 64, byte = tail bits ∧ byte.toNat = bits + 128 := by
  obtain ⟨_, least, greatest⟩ := holds_low follows range member
  rw [UInt8.le_iff_toNat_le] at least greatest
  have low : 128 ≤ byte.toNat := Nat.le_trans least (holds_iff.mp holds).1
  have high : byte.toNat ≤ 191 := Nat.le_trans (holds_iff.mp holds).2 greatest
  refine ⟨byte.toNat - 128, by omega, ?_, by omega⟩
  rw [tail, Nat.sub_add_cancel low, UInt8.ofNat_toNat]

theorem exists_utf8EncodeChar {number : Nat} (valid : number.isValidChar) :
    ∃ char : Char, String.utf8EncodeChar char =
      if number ≤ 127 then [UInt8.ofNat number]
      else if number ≤ 2047 then [UInt8.ofNat (number / 64 % 32 + 192), tail (number % 64)]
      else if number ≤ 65535 then
        [UInt8.ofNat (number / 4096 % 16 + 224), tail (number / 64 % 64), tail (number % 64)]
      else
        [UInt8.ofNat (number / 262144 % 8 + 240), tail (number / 4096 % 64),
          tail (number / 64 % 64), tail (number % 64)] :=
  ⟨Char.ofNatAux number valid, rfl⟩

theorem exists_char_two {high last : Nat} (least : 2 ≤ high) (small : high < 32)
    (lastSmall : last < 64) :
    ∃ char, String.utf8EncodeChar char = [UInt8.ofNat (high + 192), tail last] := by
  have valid : (high * 64 + last).isValidChar := .inl (by omega)
  obtain ⟨char, encodes⟩ := exists_utf8EncodeChar valid
  rw [if_neg (by omega), if_pos (by omega)] at encodes
  refine ⟨char, encodes.trans ?_⟩
  rw [show (high * 64 + last) / 64 % 32 = high by omega,
    show (high * 64 + last) % 64 = last by omega]

theorem exists_char_three {high middle last : Nat} (small : high < 16) (middleSmall : middle < 64)
    (lastSmall : last < 64) (notOverlong : high = 0 → 32 ≤ middle)
    (notSurrogate : high = 13 → middle < 32) :
    ∃ char, String.utf8EncodeChar char =
      [UInt8.ofNat (high + 224), tail middle, tail last] := by
  have valid : (high * 4096 + middle * 64 + last).isValidChar := by
    unfold Nat.isValidChar
    omega
  obtain ⟨char, encodes⟩ := exists_utf8EncodeChar valid
  rw [if_neg (by omega), if_neg (by omega), if_pos (by omega)] at encodes
  refine ⟨char, encodes.trans ?_⟩
  rw [show (high * 4096 + middle * 64 + last) / 4096 % 16 = high by omega,
    show (high * 4096 + middle * 64 + last) / 64 % 64 = middle by omega,
    show (high * 4096 + middle * 64 + last) % 64 = last by omega]

theorem exists_char_four {high upper lower last : Nat} (small : high < 5) (upperSmall : upper < 64)
    (lowerSmall : lower < 64) (lastSmall : last < 64) (notOverlong : high = 0 → 16 ≤ upper)
    (notBeyond : high = 4 → upper < 16) :
    ∃ char, String.utf8EncodeChar char =
      [UInt8.ofNat (high + 240), tail upper, tail lower, tail last] := by
  have valid : (high * 262144 + upper * 4096 + lower * 64 + last).isValidChar := by
    unfold Nat.isValidChar
    omega
  obtain ⟨char, encodes⟩ := exists_utf8EncodeChar valid
  rw [if_neg (by omega), if_neg (by omega), if_neg (by omega)] at encodes
  refine ⟨char, encodes.trans ?_⟩
  rw [show (high * 262144 + upper * 4096 + lower * 64 + last) / 262144 % 8 = high by omega,
    show (high * 262144 + upper * 4096 + lower * 64 + last) / 4096 % 64 = upper by omega,
    show (high * 262144 + upper * 4096 + lower * 64 + last) / 64 % 64 = lower by omega,
    show (high * 262144 + upper * 4096 + lower * 64 + last) % 64 = last by omega]

/-- A lead with all that it asks for is the encoding of a character. -/
theorem exists_char_of_fills (follows : followers lead = some ranges)
    (fills : Fills ranges rest) : ∃ char, String.utf8EncodeChar char = lead :: rest := by
  rcases followers_cases lead with none | ⟨small, one⟩ | ⟨high, least, small, rfl, two⟩ |
    ⟨high, small, rfl⟩ | ⟨high, small, rfl⟩
  · rw [none] at follows
    cases follows
  · rw [one] at follows
    cases follows
    cases fills
    have valid : lead.toNat.isValidChar := .inl (by omega)
    obtain ⟨char, encodes⟩ := exists_utf8EncodeChar valid
    rw [if_pos (by omega), UInt8.ofNat_toNat] at encodes
    exact ⟨char, encodes⟩
  · obtain rfl : [continuation] = ranges := Option.some.inj (two.symm.trans follows)
    obtain _ | ⟨holds, ⟨⟩⟩ := fills
    obtain ⟨last, lastSmall, rfl, _⟩ := exists_bits follows (by simp) holds
    exact exists_char_two least small lastSmall
  · obtain ⟨range, three, low, top⟩ := exists_followers_three small
    obtain rfl : [range, continuation] = ranges := Option.some.inj (three.symm.trans follows)
    obtain _ | ⟨holdsMiddle, _ | ⟨holdsLast, ⟨⟩⟩⟩ := fills
    obtain ⟨middle, middleSmall, rfl, value⟩ := exists_bits follows (by simp) holdsMiddle
    obtain ⟨last, lastSmall, rfl, _⟩ := exists_bits follows (by simp) holdsLast
    rw [holds_iff, low, top, value] at holdsMiddle
    refine exists_char_three small middleSmall lastSmall (fun first => ?_) fun surrogates => ?_
    · rw [if_pos first] at holdsMiddle
      omega
    · rw [if_pos surrogates] at holdsMiddle
      omega
  · obtain ⟨range, four, low, top⟩ := exists_followers_four small
    obtain rfl : [range, continuation, continuation] = ranges :=
      Option.some.inj (four.symm.trans follows)
    obtain _ | ⟨holdsUpper, _ | ⟨holdsLower, _ | ⟨holdsLast, ⟨⟩⟩⟩⟩ := fills
    obtain ⟨upper, upperSmall, rfl, value⟩ := exists_bits follows (by simp) holdsUpper
    obtain ⟨lower, lowerSmall, rfl, _⟩ := exists_bits follows (by simp) holdsLower
    obtain ⟨last, lastSmall, rfl, _⟩ := exists_bits follows (by simp) holdsLast
    rw [holds_iff, low, top, value] at holdsUpper
    refine exists_char_four small upperSmall lowerSmall lastSmall (fun first => ?_) fun beyond => ?_
    · rw [if_pos first] at holdsUpper
      omega
    · rw [if_pos beyond] at holdsUpper
      omega

/-! ### Parts that lead to a character -/

/-- A part leads to a character exactly if its first octet is a lead, and the others are what the
lead asks for first. What it asks for after them can be filled with the least octets that do. -/
theorem leads_cons_iff :
    Leads (lead :: part) ↔ ∃ met left, followers lead = some (met ++ left) ∧ Fills met part := by
  constructor
  · rintro ⟨char, rest, same⟩
    obtain ⟨first, others, ranges, encodes, follows, holds, _⟩ := exists_utf8EncodeChar_eq char
    rw [encodes, List.cons_append] at same
    obtain ⟨rfl, rfl⟩ := List.cons.inj same
    refine ⟨ranges.take part.length, ranges.drop part.length, ?_, ?_⟩
    · rw [List.take_append_drop]
      exact follows
    · exact List.forall₂_take_append _ _ _ holds
  · rintro ⟨met, left, follows, fills⟩
    have least : Fills left (left.map OctetRange.low) := by
      rw [Fills, List.forall₂_map_right_iff, List.forall₂_same]
      intro range member
      exact (holds_low follows range (List.mem_append_right met member)).1
    obtain ⟨char, encodes⟩ := exists_char_of_fills follows (List.rel_append fills least)
    exact ⟨char, _, encodes.symm⟩

/-- What comes after the first octet of a part that leads to a character continues a sequence. -/
theorem continues_of_leads (leads : Leads (lead :: part)) :
    ∀ byte ∈ part, 0x80 ≤ byte ∧ byte ≤ 0xBF := by
  obtain ⟨met, left, follows, fills⟩ := leads_cons_iff.mp leads
  have bounds : ∀ range ∈ met, 0x80 ≤ range.low ∧ range.high ≤ 0xBF := fun range member =>
    (holds_low follows range (List.mem_append_left left member)).2
  clear follows leads
  induction fills with
  | nil => simp
  | cons holds fills inductionHypothesis =>
    rw [List.forall_mem_cons] at bounds ⊢
    rw [OctetRange.holds, Bool.and_eq_true, decide_eq_true_iff, decide_eq_true_iff] at holds
    exact ⟨⟨UInt8.le_trans bounds.1.1 holds.1, UInt8.le_trans holds.2 bounds.1.2⟩,
      inductionHypothesis bounds.2⟩

/-- An octet alone leads to a character unless it continues a sequence, or could only lead an
overlong form or a value past U+10FFFF. -/
theorem leads_singleton_iff : Leads [byte] ↔ byte < 0x80 ∨ 0xC2 ≤ byte ∧ byte ≤ 0xF4 := by
  have leads : Leads [byte] ↔ ∃ ranges, followers byte = some ranges := by
    constructor
    · intro leads
      obtain ⟨met, left, follows, _⟩ := leads_cons_iff.mp leads
      exact ⟨met ++ left, follows⟩
    · rintro ⟨ranges, follows⟩
      exact leads_cons_iff.mpr ⟨[], ranges, follows, .nil⟩
  have bounds : (byte < 0x80 ↔ byte.toNat < 128) ∧ (0xC2 ≤ byte ↔ 194 ≤ byte.toNat) ∧
      (byte ≤ 0xF4 ↔ byte.toNat ≤ 244) :=
    ⟨UInt8.lt_iff_toNat_lt, UInt8.le_iff_toNat_le, UInt8.le_iff_toNat_le⟩
  have follows := followers_ofNat byte.toNat_lt
  rw [UInt8.ofNat_toNat] at follows
  rw [leads, bounds.1, bounds.2.1, bounds.2.2, follows]
  split_ifs <;> simp <;> omega

/-- Two octets lead to a character exactly if the second is what the first asks for next. -/
theorem leads_pair_iff {range : OctetRange} (follows : followers lead = some (range :: ranges)) :
    Leads [lead, byte] ↔ range.low ≤ byte ∧ byte ≤ range.high := by
  have holds : range.holds byte = true ↔ range.low ≤ byte ∧ byte ≤ range.high := by
    rw [OctetRange.holds, Bool.and_eq_true, decide_eq_true_iff, decide_eq_true_iff]
  rw [← holds, leads_cons_iff]
  constructor
  · rintro ⟨met, left, same, fills⟩
    obtain _ | ⟨first, ⟨⟩⟩ := fills
    rw [follows, List.cons_append] at same
    obtain ⟨rfl, _⟩ := List.cons.inj (Option.some.inj same)
    exact first
  · intro first
    exact ⟨[range], ranges, follows, .cons first .nil⟩

/-! ### The decoder on parts -/

namespace Decoder

/-- A decoder between two sequences. -/
def between (decided : List Segment) : Decoder := ⟨decided, [], 0, []⟩

/-- A decoder that is fed some of what it waits for waits for the rest. -/
theorem foldl_feed_of_fills {met left : List OctetRange} (fills : Fills met part)
    (waits : left ≠ []) (decided : List Segment) (held : Bytes) (value : Nat) :
    part.foldl feed ⟨decided, held, value, met ++ left⟩ =
      ⟨decided, part.reverse ++ held, valueAfter value part, left⟩ := by
  induction fills generalizing held value with
  | nil => rfl
  | @cons range byte met part holds fills inductionHypothesis =>
    have goesOn : (met ++ left).isEmpty = false := by simp [waits]
    have fed : feed ⟨decided, held, value, range :: (met ++ left)⟩ byte =
        ⟨decided, byte :: held, value * 64 + (byte.toNat - 0x80), met ++ left⟩ := by
      rw [feed]
      dsimp only
      rw [if_pos holds, goesOn]
      rfl
    rw [List.foldl_cons, List.cons_append, fed, inductionHypothesis, List.reverse_cons,
      List.append_assoc, List.singleton_append, valueAfter, valueAfter, List.foldl_cons]

/-- An octet that leads nothing is decided at once. -/
theorem feed_of_not_leads (stray : ¬ Leads [byte]) (decided : List Segment) :
    (between decided).feed byte = between (.broken [byte] :: decided) := by
  have nothing : followers byte = none := by
    rw [Option.eq_none_iff_forall_ne_some]
    intro ranges follows
    exact stray (leads_cons_iff.mpr ⟨[], ranges, follows, .nil⟩)
  rw [between, feed]
  show begin _ byte = _
  rw [begin, nothing]
  rfl

/-- A part that leads to a character and is not the whole of it is held, and what the decoder then
waits for tells which octets lead on. -/
theorem exists_foldl_feed_of_leads (begun : part ≠ []) (leads : Leads part)
    (unfinished : ∀ char, part ≠ String.utf8EncodeChar char) (decided : List Segment) :
    ∃ value range later,
      part.foldl feed (between decided) = ⟨decided, part.reverse, value, range :: later⟩ ∧
        ∀ byte, range.holds byte = true → Leads (part ++ [byte]) := by
  obtain ⟨lead, others, rfl⟩ := List.exists_cons_of_ne_nil begun
  obtain ⟨met, left, follows, fills⟩ := leads_cons_iff.mp leads
  cases left with
  | nil =>
    -- The lead would have all that it asks for, and the part would be a whole encoding.
    rw [List.append_nil] at follows
    obtain ⟨char, encodes⟩ := exists_char_of_fills follows fills
    exact absurd encodes.symm (unfinished char)
  | cons range later =>
    have first : (between decided).feed lead =
        ⟨decided, [lead], leadValue lead, met ++ range :: later⟩ := by
      rw [between, feed]
      show begin _ lead = _
      rw [begin, follows]
      cases met <;> rfl
    refine ⟨valueAfter (leadValue lead) others, range, later, ?_, fun byte holds => ?_⟩
    · rw [List.foldl_cons, first, foldl_feed_of_fills fills (List.cons_ne_nil _ _),
        List.reverse_cons]
    · refine leads_cons_iff.mpr ⟨met ++ [range], later, ?_, ?_⟩
      · rw [follows, List.append_assoc, List.singleton_append]
      · exact List.rel_append fills (.cons holds .nil)

/-- A part that is broken off is decided as such, and the octet after it is read as if it came
first. -/
theorem finish_foldl_of_breaksOff (breaks : BreaksOff part rest) (decided : List Segment) :
    ((part ++ rest).foldl feed (between decided)).finish =
      (rest.foldl feed (between (.broken part :: decided))).finish := by
  cases breaks with
  | alone byte rest stray =>
    rw [List.singleton_append, List.foldl_cons, feed_of_not_leads stray]
  | short part rest begun leads unfinished longest =>
    obtain ⟨value, range, later, held, leadsOn⟩ :=
      exists_foldl_feed_of_leads begun leads unfinished decided
    rw [List.foldl_append, held]
    cases rest with
    | nil =>
      rw [List.foldl_nil, List.foldl_nil, finish, finish]
      simp [between, decide]
    | cons byte more =>
      have refused : range.holds byte ≠ true := fun holds =>
        longest byte more rfl (leadsOn byte holds)
      have startsOver : feed ⟨decided, part.reverse, value, range :: later⟩ byte =
          (between (.broken part :: decided)).feed byte := by
        rw [feed]
        dsimp only
        rw [if_neg refused, List.reverse_reverse]
        rfl
      rw [List.foldl_cons, List.foldl_cons, startsOver]

theorem finish_foldl_of_divides (divides : Divides bytes parts) (decided : List Segment) :
    (bytes.foldl feed (between decided)).finish = decided.reverse ++ parts := by
  -- After each part the decoder stands between two sequences, so the induction is on the parts and
  -- not on the octets, and holds whatever was decided before.
  induction divides generalizing decided with
  | done => exact (List.append_nil _).symm
  | sequence char later inductionHypothesis =>
    have fed : (String.utf8EncodeChar char).foldl feed (between decided) =
        between (.sequence char :: decided) := foldl_feed_utf8EncodeChar decided char
    rw [List.foldl_append, fed, inductionHypothesis, List.reverse_cons, List.append_assoc]
    rfl
  | broken breaks later inductionHypothesis =>
    rw [finish_foldl_of_breaksOff breaks, inductionHypothesis, List.reverse_cons,
      List.append_assoc]
    rfl

end Decoder

/-! ### The one division -/

/-- Some octets of a byte string that follow a beginning with a property keep it as far as they
can. -/
theorem exists_longest {holds : Bytes → Prop} (part rest : Bytes) (begins : holds part) :
    ∃ more later, rest = more ++ later ∧ holds (part ++ more) ∧
      ∀ byte others, later = byte :: others → ¬ holds (part ++ more ++ [byte]) := by
  induction rest generalizing part with
  | nil => exact ⟨[], [], rfl, by rwa [List.append_nil], nofun⟩
  | cons byte rest inductionHypothesis =>
    by_cases goesOn : holds (part ++ [byte])
    · obtain ⟨more, later, rfl, keeps, stops⟩ := inductionHypothesis _ goesOn
      rw [List.append_assoc] at keeps stops
      exact ⟨byte :: more, later, rfl, keeps, stops⟩
    · refine ⟨[], byte :: rest, rfl, by rwa [List.append_nil], ?_⟩
      rintro _ _ ⟨⟩
      rwa [List.append_nil]

/-- Bytes begin with the encoding of a character or with a part that is broken off. -/
theorem exists_first (some : bytes ≠ []) :
    (∃ char rest, bytes = String.utf8EncodeChar char ++ rest) ∨
      ∃ part rest, bytes = part ++ rest ∧ part ≠ [] ∧ BreaksOff part rest := by
  obtain ⟨lead, others, rfl⟩ := List.exists_cons_of_ne_nil some
  by_cases leads : Leads [lead]
  · obtain ⟨more, later, rfl, leads, longest⟩ := exists_longest [lead] others leads
    by_cases whole : ∃ char, lead :: more = String.utf8EncodeChar char
    · obtain ⟨char, encodes⟩ := whole
      exact .inl ⟨char, later, by rw [← encodes, List.cons_append]⟩
    · rw [not_exists] at whole
      exact .inr ⟨lead :: more, later, rfl, List.cons_ne_nil _ _,
        .short _ _ (List.cons_ne_nil _ _) leads whole longest⟩
  · exact .inr ⟨[lead], others, rfl, List.cons_ne_nil _ _, .alone lead others leads⟩

theorem utf8EncodeChar_ne_nil (char : Char) : String.utf8EncodeChar char ≠ [] := by
  obtain ⟨_, _, _, encodes, _⟩ := exists_utf8EncodeChar_eq char
  rw [encodes]
  exact List.cons_ne_nil _ _

theorem exists_divides (bytes : Bytes) : ∃ parts, Divides bytes parts := by
  by_cases some : bytes = []
  · exact ⟨[], some ▸ .done⟩
  · rcases exists_first some with ⟨char, rest, rfl⟩ | ⟨part, rest, rfl, begun, breaks⟩
    · have shorter : rest.length < (String.utf8EncodeChar char ++ rest).length := by
        have begun := List.length_pos_of_ne_nil (utf8EncodeChar_ne_nil char)
        rw [List.length_append]
        omega
      obtain ⟨parts, later⟩ := exists_divides rest
      exact ⟨_, .sequence char later⟩
    · have shorter : rest.length < (part ++ rest).length := by
        have begun := List.length_pos_of_ne_nil begun
        rw [List.length_append]
        omega
      obtain ⟨parts, later⟩ := exists_divides rest
      exact ⟨_, .broken breaks later⟩
termination_by bytes.length

/-- Bytes are divided in one way, and the decoder finds it. -/
theorem divides_iff : Divides bytes parts ↔ parts = segments bytes := by
  have found {parts : List Segment} (divides : Divides bytes parts) : parts = segments bytes :=
    (Decoder.finish_foldl_of_divides divides []).symm
  constructor
  · exact found
  · rintro rfl
    -- There is a division, and it can only be the one that the decoder finds.
    obtain ⟨parts, divides⟩ := exists_divides bytes
    exact found divides ▸ divides

/-! ### Byte strings put together -/

theorem Divides.append_sequences (chars : List Char) (later : Divides bytes parts) :
    Divides (chars.flatMap String.utf8EncodeChar ++ bytes)
      (chars.map Segment.sequence ++ parts) := by
  induction chars with
  | nil => exact later
  | cons char chars inductionHypothesis =>
    rw [List.flatMap_cons, List.append_assoc]
    exact .sequence char inductionHypothesis

/-- A part that is broken off at the end stays so in front of an octet that continues nothing. -/
theorem BreaksOff.append (breaks : BreaksOff part rest)
    (apart : ∀ byte ∈ second.head?, ¬ (0x80 ≤ byte ∧ byte ≤ 0xBF)) :
    BreaksOff part (rest ++ second) := by
  cases breaks with
  | alone byte rest stray => exact .alone byte _ stray
  | short part rest begun leads unfinished longest =>
    refine .short part _ begun leads unfinished fun byte more split => ?_
    cases rest with
    | nil =>
      -- Only here does the part meet the second byte string.
      intro leadsOn
      obtain ⟨lead, others, rfl⟩ := List.exists_cons_of_ne_nil begun
      refine apart byte ?_ (continues_of_leads leadsOn byte (by simp))
      rw [← List.nil_append second, split]
      exact rfl
    | cons next others =>
      obtain ⟨rfl, _⟩ := List.cons.inj split
      exact longest next others rfl

theorem Divides.append (divides : Divides first parts) (later : Divides second more)
    (apart : ∀ byte ∈ second.head?, ¬ (0x80 ≤ byte ∧ byte ≤ 0xBF)) :
    Divides (first ++ second) (parts ++ more) := by
  induction divides with
  | done => exact later
  | sequence char _ inductionHypothesis =>
    rw [List.append_assoc]
    exact .sequence char inductionHypothesis
  | broken breaks _ inductionHypothesis =>
    rw [List.append_assoc]
    exact .broken (breaks.append apart) inductionHypothesis

/-! ### Decoding -/

theorem decode_of_divides (divides : Divides bytes parts) :
    decode bytes = String.ofList (parts.map Segment.shown) := by
  rw [decode, decodeChars, divides_iff.mp divides]

/-- Two byte strings are decoded each on its own if the first is well-formed, or if the second is
empty or begins with an octet that continues nothing. -/
theorem decode_append
    (apart : WellFormed first ∨ ∀ byte ∈ second.head?, ¬ (0x80 ≤ byte ∧ byte ≤ 0xBF)) :
    decode (first ++ second) = decode first ++ decode second := by
  obtain ⟨more, later⟩ := exists_divides second
  obtain ⟨parts, divides, together⟩ : ∃ parts, Divides first parts ∧
      Divides (first ++ second) (parts ++ more) := by
    rcases apart with ⟨chars, rfl⟩ | apart
    · refine ⟨chars.map Segment.sequence ++ [], ?_, ?_⟩
      · have whole := Divides.append_sequences chars .done
        rwa [List.append_nil] at whole
      · rw [List.append_nil]
        exact later.append_sequences chars
    · obtain ⟨parts, divides⟩ := exists_divides first
      exact ⟨parts, divides, divides.append later apart⟩
  rw [decode_of_divides together, decode_of_divides divides, decode_of_divides later,
    List.map_append, String.ofList_append]

/-- The text of a byte string has it for its encoding exactly if it is well-formed. -/
theorem ofString_decode_eq_iff : Bytes.ofString (decode bytes) = bytes ↔ WellFormed bytes := by
  constructor
  · intro same
    exact ⟨(decode bytes).toList, same.symm⟩
  · rintro ⟨chars, rfl⟩
    have encoded : Bytes.ofString (String.ofList chars) = chars.flatMap String.utf8EncodeChar := by
      rw [Bytes.ofString, String.toList_ofList]
    rw [← encoded, decode_ofString]

end ShellSmoke.Text
