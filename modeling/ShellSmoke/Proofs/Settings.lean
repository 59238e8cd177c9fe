/-
This file proves which values of its variable set the deadline of a run. The loop over the digits
only goes up, so a number that stays below the bound at the end has stayed below it all the way, and
one that passes the bound is given up at the first digit that takes it there. A value therefore
counts exactly if it is a decimal numeral of a number below the bound, however many zeros that
begins with; any other leaves the deadline as it is without a value.
-/

import Mathlib.Data.List.Induction
import Mathlib.Data.Nat.Digits.Defs
import Mathlib.Tactic.IntervalCases
import ShellSmoke.Proofs.Text
import ShellSmoke.Settings

namespace ShellSmoke

theorem Environment.find?_set (environment : Environment) (name : String) (value : Bytes) :
    (environment.set name value).find? name = some value := by
  simp [Environment.set, Environment.find?]

namespace Settings

/-! ### Digits -/

/-- The number of some digits, the first of which counts most, from a number in front of them. -/
def valueFrom (number : Nat) (digits : List Nat) : Nat :=
  digits.foldl (fun number digit => number * 10 + digit) number

theorem valueFrom_concat (number : Nat) (digits : List Nat) (digit : Nat) :
    valueFrom number (digits ++ [digit]) = valueFrom number digits * 10 + digit := by
  rw [valueFrom, List.foldl_append]
  rfl

theorem le_valueFrom (number : Nat) (digits : List Nat) : number ≤ valueFrom number digits := by
  induction digits generalizing number with
  | nil => exact Nat.le_refl number
  | cons digit digits inductionHypothesis =>
    have later : number * 10 + digit ≤ valueFrom (number * 10 + digit) digits :=
      inductionHypothesis _
    rw [valueFrom, List.foldl_cons]
    exact Nat.le_trans (by omega) later

/-- Read from the first digit on, a number is what its digits count by their places. -/
theorem valueFrom_zero (digits : List Nat) : valueFrom 0 digits = Nat.ofDigits 10 digits.reverse := by
  induction digits using List.reverseRecOn with
  | nil => rfl
  | append_singleton front last inductionHypothesis =>
    rw [valueFrom_concat, inductionHypothesis, List.reverse_append, List.reverse_singleton,
      List.singleton_append, Nat.ofDigits_cons]
    omega

theorem isDigit_iff {char : Char} :
    char.isDigit = true ↔ ∃ digit < 10, char = Nat.digitChar digit := by
  constructor
  · intro isDigit
    have bounds : 48 ≤ char.toNat ∧ char.toNat ≤ 57 := by
      simpa [Char.isDigit, UInt32.le_iff_toNat_le] using isDigit
    refine ⟨char.toNat - 48, by omega, ?_⟩
    rw [← Char.toNat_inj, Nat.toNat_digitChar_of_lt_ten (by omega)]
    omega
  · rintro ⟨digit, small, rfl⟩
    rw [Nat.isDigit_digitChar]
    exact decide_eq_true small

/-- A digit is added exactly if the number stays below the bound. -/
theorem addDigit_eq_some_iff {number next : Nat} {char : Char} :
    addDigit number char = some next ↔
      ∃ digit < 10, char = Nat.digitChar digit ∧ next = number * 10 + digit ∧
        next < millisecondBound := by
  unfold addDigit
  by_cases isDigit : char.isDigit = true
  · obtain ⟨digit, small, rfl⟩ := isDigit_iff.mp isDigit
    have counts : (Nat.digitChar digit).toNat - '0'.toNat = digit :=
      Nat.toNat_digitChar_sub_48_of_lt_ten small
    rw [if_pos isDigit, counts]
    dsimp only
    rw [Option.ite_none_right_eq_some, Option.some.injEq]
    constructor
    · rintro ⟨below, rfl⟩
      exact ⟨digit, small, rfl, rfl, below⟩
    · rintro ⟨other, otherSmall, same, rfl, below⟩
      have sameDigit : digit = other := by
        rw [← counts, same]
        exact Nat.toNat_digitChar_sub_48_of_lt_ten otherSmall
      rw [sameDigit]
      exact ⟨below, rfl⟩
  · rw [if_neg isDigit]
    refine iff_of_false nofun ?_
    rintro ⟨digit, small, rfl, _⟩
    exact isDigit (isDigit_iff.mpr ⟨digit, small, rfl⟩)

/-- The loop over the digits comes to a number exactly if there are only digits and the number of
all of them is below the bound: no number on the way is greater. -/
theorem foldlM_addDigit_eq_some_iff {start number : Nat} {text : List Char}
    (small : start < millisecondBound) :
    text.foldlM addDigit start = some number ↔
      ∃ digits : List Nat, (∀ digit ∈ digits, digit < 10) ∧ text = digits.map Nat.digitChar ∧
        number = valueFrom start digits ∧ number < millisecondBound := by
  induction text generalizing start with
  | nil =>
    rw [List.foldlM_nil]
    constructor
    · rintro ⟨⟩
      exact ⟨[], by simp, rfl, rfl, small⟩
    · rintro ⟨digits, _, none, rfl, _⟩
      rw [List.map_eq_nil_iff.mp none.symm]
      rfl
  | cons char text inductionHypothesis =>
    rw [List.foldlM_cons, Option.bind_eq_bind, Option.bind_eq_some_iff]
    constructor
    · rintro ⟨next, added, later⟩
      obtain ⟨digit, isSmall, rfl, rfl, below⟩ := addDigit_eq_some_iff.mp added
      obtain ⟨digits, areSmall, rfl, rfl, belowLater⟩ := (inductionHypothesis below).mp later
      exact ⟨digit :: digits, List.forall_mem_cons.mpr ⟨isSmall, areSmall⟩, rfl, rfl, belowLater⟩
    · rintro ⟨digits, areSmall, split, rfl, belowLater⟩
      obtain ⟨digit, digits, rfl, rfl, rfl⟩ := List.map_eq_cons_iff.mp split.symm
      rw [List.forall_mem_cons] at areSmall
      -- The later digits only make the number greater, so the loop does not give up at this one.
      have below : start * 10 + digit < millisecondBound :=
        Nat.lt_of_le_of_lt (le_valueFrom _ digits) belowLater
      refine ⟨_, addDigit_eq_some_iff.mpr ⟨digit, areSmall.1, rfl, rfl, below⟩, ?_⟩
      exact (inductionHypothesis below).mpr ⟨digits, areSmall.2, rfl, rfl, belowLater⟩

/-! ### Numerals -/

/-- The octets of some decimal digits. -/
def octets (digits : List Nat) : Bytes := digits.map fun digit => UInt8.ofNat (48 + digit)

/-- Whether a value is a decimal numeral of a number: digits, at least one, behind a plus sign or
none. -/
def IsNumeral (value : Bytes) (number : Nat) : Prop :=
  ∃ digits : List Nat, digits ≠ [] ∧ (∀ digit ∈ digits, digit < 10) ∧
    (value = octets digits ∨ value = '+'.toUInt8 :: octets digits) ∧
    number = Nat.ofDigits 10 digits.reverse

theorem number?_eq_some_iff {text : List Char} {number : Nat} :
    number? text = some number ↔
      ∃ digits : List Nat, digits ≠ [] ∧ (∀ digit ∈ digits, digit < 10) ∧
        (text = digits.map Nat.digitChar ∨ text = '+' :: digits.map Nat.digitChar) ∧
        number = Nat.ofDigits 10 digits.reverse ∧ number < millisecondBound := by
  have reads (body : List Char) :
      (if body.isEmpty then none else body.foldlM addDigit 0) = some number ↔
        ∃ digits : List Nat, digits ≠ [] ∧ (∀ digit ∈ digits, digit < 10) ∧
          body = digits.map Nat.digitChar ∧ number = Nat.ofDigits 10 digits.reverse ∧
          number < millisecondBound := by
    rw [Option.ite_none_left_eq_some, foldlM_addDigit_eq_some_iff (by decide), ← exists_and_left]
    refine exists_congr fun digits => ?_
    rw [valueFrom_zero]
    constructor
    · rintro ⟨some, small, rfl, rest⟩
      exact ⟨by simpa using some, small, rfl, rest⟩
    · rintro ⟨some, small, rfl, rest⟩
      exact ⟨by simpa using some, small, rfl, rest⟩
  have noSign {digits : List Nat} {rest : List Char} (small : ∀ digit ∈ digits, digit < 10) :
      '+' :: rest ≠ digits.map Nat.digitChar := by
    intro same
    obtain ⟨digit, others, rfl, sign, _⟩ := List.map_eq_cons_iff.mp same.symm
    have isDigit := isDigit_iff.mpr ⟨digit, small digit List.mem_cons_self, rfl⟩
    rw [sign] at isDigit
    cases isDigit
  unfold number?
  dsimp only
  rw [reads]
  refine exists_congr fun digits => and_congr_right fun some => and_congr_right fun small => ?_
  refine and_congr_left fun _ => ?_
  split
  · rename_i rest
    simp [noSign small]
  · rename_i other
    refine (or_iff_left fun signed => ?_).symm
    exact other _ signed

theorem ofString_numeral {digits : List Nat} (small : ∀ digit ∈ digits, digit < 10) :
    Bytes.ofString (String.ofList (digits.map Nat.digitChar)) = octets digits := by
  have each (digit : Nat) (isSmall : digit < 10) :
      String.utf8EncodeChar (Nat.digitChar digit) = [UInt8.ofNat (48 + digit)] := by
    interval_cases digit <;> rfl
  rw [Bytes.ofString, String.toList_ofList, List.flatMap_map, octets]
  induction digits with
  | nil => rfl
  | cons digit digits inductionHypothesis =>
    rw [List.forall_mem_cons] at small
    rw [List.flatMap_cons, each digit small.1, inductionHypothesis small.2]
    rfl

/-- A value is read as a number exactly if it is a numeral of the number, which is below the
bound. -/
theorem number?_of_value_iff {value : Bytes} {number : Nat} :
    ((Text.decodeStrict? value).bind fun text => number? text.toList) = some number ↔
      IsNumeral value number ∧ number < millisecondBound := by
  have signed (digits : List Nat) (small : ∀ digit ∈ digits, digit < 10) :
      Bytes.ofString (String.ofList ('+' :: digits.map Nat.digitChar)) =
        '+'.toUInt8 :: octets digits := by
    rw [← ofString_numeral small, Bytes.ofString, Bytes.ofString, String.toList_ofList,
      String.toList_ofList, List.flatMap_cons]
    rfl
  rw [Option.bind_eq_some_iff]
  constructor
  · rintro ⟨text, decoded, read⟩
    rw [Text.decodeStrict?_eq_some_iff] at decoded
    obtain ⟨digits, some, small, spelled, rfl, below⟩ := number?_eq_some_iff.mp read
    refine ⟨⟨digits, some, small, ?_, rfl⟩, below⟩
    rw [decoded, ← signed digits small, ← ofString_numeral small]
    rcases spelled with spelled | spelled
    · exact .inl (by rw [← spelled, String.ofList_toList])
    · exact .inr (by rw [← spelled, String.ofList_toList])
  · rintro ⟨⟨digits, some, small, spelled, rfl⟩, below⟩
    simp only [Text.decodeStrict?_eq_some_iff, number?_eq_some_iff]
    rcases spelled with rfl | rfl
    · refine ⟨_, (ofString_numeral small).symm, digits, some, small, .inl ?_, rfl, below⟩
      exact String.toList_ofList
    · refine ⟨_, (signed digits small).symm, digits, some, small, .inr ?_, rfl, below⟩
      exact String.toList_ofList

/-- The usual text of a number is a numeral of it. -/
theorem isNumeral_toString (number : Nat) :
    IsNumeral (Bytes.ofString (toString number)) number := by
  have spelled (number : Nat) : ∃ digits : List Nat, digits ≠ [] ∧ (∀ digit ∈ digits, digit < 10) ∧
      Nat.toDigits 10 number = digits.map Nat.digitChar ∧
      number = Nat.ofDigits 10 digits.reverse := by
    induction number using Nat.strongRecOn with
    | ind number inductionHypothesis =>
      rw [Nat.toDigits_eq_if (by decide)]
      by_cases small : number < 10
      · rw [if_pos small]
        exact ⟨[number], by simp, by simpa using small, rfl, by simp⟩
      · obtain ⟨digits, some, areSmall, text, value⟩ :=
          inductionHypothesis (number / 10) (by omega)
        rw [if_neg small, text]
        refine ⟨digits ++ [number % 10], by simp, ?_, by simp, ?_⟩
        · rw [List.forall_mem_append, List.forall_mem_singleton]
          exact ⟨areSmall, Nat.mod_lt _ (by decide)⟩
        · rw [List.reverse_append, List.reverse_singleton, List.singleton_append,
            Nat.ofDigits_cons, ← value]
          omega
  obtain ⟨digits, some, small, text, value⟩ := spelled number
  refine ⟨digits, some, small, .inl ?_, value⟩
  rw [Nat.toString_eq_ofList_toDigits, text, ofString_numeral small]

/-! ### The deadline -/

/-- The variable that sets the deadline. -/
def timeoutVariable : String := "MICRO_CHECK_TIMEOUT_MS"

theorem timeout_eq (environment : Environment) :
    timeout environment =
      (((environment.find? timeoutVariable).bind fun value =>
        (Text.decodeStrict? value).bind fun text => number? text.toList).map Duration.mk).getD
        (.seconds 30) := by
  unfold timeout Environment.text? timeoutVariable
  rw [← Option.bind_assoc]
  cases ((environment.find? "MICRO_CHECK_TIMEOUT_MS").bind Text.decodeStrict?).bind
    fun text => number? text.toList <;> rfl

/-- Adds a decimal digit to a word of 64 bits, on which numbers go round. -/
def addToWord (word : UInt64) (char : Char) : UInt64 :=
  word * 10 + UInt64.ofNat (char.toNat - '0'.toNat)

/-- The digits of a text added up on words. -/
def wordOf (text : List Char) : UInt64 := text.foldl addToWord 0

theorem foldlM_eq_foldl_word {text : List Char} {word : UInt64} {number : Nat}
    (read : text.foldlM addDigit word.toNat = some number) :
    number = (text.foldl addToWord word).toNat := by
  induction text generalizing word with
  | nil =>
    cases read
    rfl
  | cons char text inductionHypothesis =>
    rw [List.foldlM_cons, Option.bind_eq_bind, Option.bind_eq_some_iff] at read
    obtain ⟨next, added, later⟩ := read
    obtain ⟨digit, small, rfl, sum, below⟩ := addDigit_eq_some_iff.mp added
    have counts : (Nat.digitChar digit).toNat - '0'.toNat = digit :=
      Nat.toNat_digitChar_sub_48_of_lt_ten small
    have held : next = (addToWord word (Nat.digitChar digit)).toNat := by
      have bound : word.toNat * 10 + digit < 2 ^ 64 := sum ▸ below
      have fits : digit < UInt64.size := Nat.lt_trans small (by decide)
      have ten : (10 : UInt64).toNat = 10 := rfl
      rw [sum, addToWord, counts, UInt64.toNat_add, UInt64.toNat_mul,
        UInt64.toNat_ofNat_of_lt' fits, ten]
      omega
    rw [List.foldl_cons]
    exact inductionHypothesis (held ▸ later)

/-- However far the loop over the digits has come, it holds the exact number of the digits that it
has read, and so do words of 64 bits. -/
theorem foldlM_of_isPrefix {text part : List Char} {number : Nat}
    (read : text.foldlM addDigit 0 = some number) (begins : part <+: text) :
    part.foldlM addDigit 0 = some (wordOf part).toNat ∧
      ∃ digits : List Nat, part = digits.map Nat.digitChar ∧
        (wordOf part).toNat = Nat.ofDigits 10 digits.reverse := by
  obtain ⟨rest, rfl⟩ := begins
  rw [List.foldlM_append, Option.bind_eq_bind, Option.bind_eq_some_iff] at read
  obtain ⟨value, earlier, _⟩ := read
  have held : value = (wordOf part).toNat :=
    foldlM_eq_foldl_word (show part.foldlM addDigit (UInt64.toNat 0) = some value from earlier)
  obtain ⟨digits, _, spelled, counted, _⟩ := (foldlM_addDigit_eq_some_iff (by decide)).mp earlier
  rw [← held]
  exact ⟨earlier, digits, spelled, counted.trans (valueFrom_zero digits)⟩

/-- The deadline is as many milliseconds as the value of its variable says if that is a numeral of
a number below 2 to the power of 64, and half a minute if the variable is not set or has any other
value. The loop over the digits of such a value holds no number that words of 64 bits do not hold.
In particular every number below the bound can be set by its usual text. -/
theorem timeout_takes_numerals :
    (∀ environment value number, environment.find? timeoutVariable = some value →
      IsNumeral value number → number < 2 ^ 64 → timeout environment = ⟨number⟩) ∧
    (∀ environment, (∀ value number, environment.find? timeoutVariable = some value →
      IsNumeral value number → 2 ^ 64 ≤ number) → timeout environment = .seconds 30) ∧
    (∀ text number, text.foldlM addDigit 0 = some number → ∀ part, part <+: text →
      part.foldlM addDigit 0 = some (wordOf part).toNat ∧
        ∃ digits : List Nat, part = digits.map Nat.digitChar ∧
          (wordOf part).toNat = Nat.ofDigits 10 digits.reverse) ∧
    ∀ (environment : Environment) (number : Nat), number < 2 ^ 64 →
      timeout (environment.set timeoutVariable (Bytes.ofString (toString number))) = ⟨number⟩ := by
  have taken (environment : Environment) (value : Bytes) (number : Nat)
      (isSet : environment.find? timeoutVariable = some value)
      (numeral : IsNumeral value number) (below : number < 2 ^ 64) :
      timeout environment = ⟨number⟩ := by
    rw [timeout_eq, isSet, Option.bind_some, number?_of_value_iff.mpr ⟨numeral, below⟩]
    rfl
  refine ⟨taken, fun environment others => ?_, fun text number read part begins =>
    foldlM_of_isPrefix read begins, fun environment number below =>
    taken _ _ number (environment.find?_set _ _) (isNumeral_toString number) below⟩
  have nothing : ((environment.find? timeoutVariable).bind fun value =>
      (Text.decodeStrict? value).bind fun text => number? text.toList) = none := by
    rw [Option.eq_none_iff_forall_ne_some]
    intro number read
    obtain ⟨value, isSet, read⟩ := Option.bind_eq_some_iff.mp read
    obtain ⟨numeral, below⟩ := number?_of_value_iff.mp read
    exact absurd (others value number isSet numeral) (Nat.not_le.mpr below)
  rw [timeout_eq, nothing]
  rfl

/-- The greatest deadline behind a sign and zeros is taken, one more is not, and neither is a number
with a space in front. -/
theorem timeout_takes_numerals_greatest :
    IsNumeral (Bytes.ofString "+0018446744073709551615") (2 ^ 64 - 1) ∧
      timeout (.set .empty timeoutVariable (Bytes.ofString "+0018446744073709551615")) =
        ⟨2 ^ 64 - 1⟩ ∧
      timeout (.set .empty timeoutVariable (Bytes.ofString "18446744073709551616")) =
        .seconds 30 ∧
      timeout (.set .empty timeoutVariable (Bytes.ofString " 5")) = .seconds 30 ∧
      "42".toList.foldlM addDigit 0 = some 42 ∧
      ['4'].foldlM addDigit 0 = some (wordOf ['4']).toNat ∧
      timeout (.set .empty timeoutVariable (Bytes.ofString (toString 7))) = ⟨7⟩ := by
  have numeral : IsNumeral (Bytes.ofString "+0018446744073709551615") (2 ^ 64 - 1) :=
    ⟨[0, 0, 1, 8, 4, 4, 6, 7, 4, 4, 0, 7, 3, 7, 0, 9, 5, 5, 1, 6, 1, 5], by decide, by decide,
      .inr (by decide), by decide⟩
  have others {set : Bytes}
      (unread : ((Text.decodeStrict? set).bind fun text => number? text.toList) = none)
      (value : Bytes) (number : Nat)
      (isSet : (Environment.empty.set timeoutVariable set).find? timeoutVariable = some value)
      (numeral : IsNumeral value number) : 2 ^ 64 ≤ number := by
    rw [Environment.find?_set] at isSet
    cases isSet
    by_contra below
    have read := number?_of_value_iff.mpr ⟨numeral, Nat.not_le.mp below⟩
    rw [unread] at read
    cases read
  have read : "42".toList.foldlM addDigit 0 = some 42 := by decide
  exact ⟨numeral, timeout_takes_numerals.1 _ _ _ (Environment.find?_set _ _ _) numeral (by decide),
    timeout_takes_numerals.2.1 _ (others (by decide)),
    timeout_takes_numerals.2.1 _ (others (by decide)), read,
    (timeout_takes_numerals.2.2.1 _ _ read ['4'] ⟨['2'], by decide⟩).1,
    timeout_takes_numerals.2.2.2 _ 7 (by decide)⟩

end Settings

end ShellSmoke
