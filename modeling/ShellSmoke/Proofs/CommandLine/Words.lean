/-
This file reads one word of a command line. Between two options a word is read without complaint
exactly if it spells options that were not used before: letters after one dash, or a name after two.
What is still open from the words before makes no difference, for it is finished first; so a reader
that stands between two options is all that has to be looked at.
-/

import ShellSmoke.CommandLine.Grammar
import ShellSmoke.CommandLine.Reading
import ShellSmoke.Proofs.Text

namespace ShellSmoke.CommandLine

/-- The option of a path, as it is spelled. -/
def PathOption.switch : PathOption → Switch
  | executable => .executable
  | results => .results

theorem PathOption.takesValue_switch (option : PathOption) : option.switch.takesValue = true := by
  cases option <;> rfl

/-- Whether no option is bound twice. -/
def Distinct (bindings : List Binding) : Prop := (bindings.map Binding.switch).Nodup

variable {bindings more : List Binding} {switch : Switch} {value : Option Bytes} {binding : Binding}

theorem Distinct.of_append {later : List Binding} (distinct : Distinct (bindings ++ later)) :
    Distinct bindings := by
  rw [Distinct, List.map_append] at distinct
  exact (List.nodup_append.mp distinct).1

/-! ### Values -/

/-- Whether a switch with a value, or without one, gives a binding. -/
inductive Gives : Switch → Option Bytes → Binding → Prop where
  | executable (path : Bytes) (named : path ≠ []) :
      Gives .executable (some path) (.executable path)
  | results (path : Bytes) (named : path ≠ []) : Gives .results (some path) (.results path)
  | max (score : MaxScore) : Gives .max (some (Bytes.ofString score.text)) (.max score)
  | withoutChecks : Gives .withoutChecks none .withoutChecks
  | dryRun : Gives .dryRun none .dryRun

theorem Gives.switch_eq (gives : Gives switch value binding) : binding.switch = switch := by
  cases gives <;> rfl

theorem ofText?_eq_some_iff {text : String} {score : MaxScore} :
    MaxScore.ofText? text = some score ↔ text = score.text := by
  constructor
  · intro found
    have same := List.find?_some found
    exact (of_decide_eq_true same).symm
  · rintro rfl
    cases score <;> decide

theorem readScore_eq_ok_iff {value : Bytes} {score : MaxScore} :
    Reader.readScore value = .ok score ↔ value = Bytes.ofString score.text := by
  have named : (Text.decodeStrict? value).bind MaxScore.ofText? = some score ↔
      value = Bytes.ofString score.text := by
    simp only [Option.bind_eq_some_iff, Text.decodeStrict?_eq_some_iff, ofText?_eq_some_iff,
      exists_eq_right]
  unfold Reader.readScore
  rw [← named]
  split
  · rename_i other found
    rw [found, Except.ok.injEq, Option.some.injEq]
  · rename_i nothing
    rw [nothing]
    split <;> exact iff_of_false nofun nofun

/-- A value that is there if it has to be sets an option exactly to the binding that is given. -/
theorem bind_eq_ok_iff (regular : switch.takesValue = value.isSome)
    (acts : switch ≠ .help ∧ switch ≠ .version) {options after : Options} :
    Reader.bind options switch (value.getD []) = .ok after ↔
      ∃ binding, Gives switch value binding ∧ after = binding.apply options := by
  constructor
  · intro bound
    match switch, value, regular with
    | .executable, some path, _ =>
      rw [Reader.bind, ite_eq_iff] at bound
      obtain ⟨_, ⟨⟩⟩ | ⟨named, ⟨⟩⟩ := bound
      exact ⟨_, .executable path (mt List.isEmpty_iff.mpr named), rfl⟩
    | .results, some path, _ =>
      rw [Reader.bind, ite_eq_iff] at bound
      obtain ⟨_, ⟨⟩⟩ | ⟨named, ⟨⟩⟩ := bound
      exact ⟨_, .results path (mt List.isEmpty_iff.mpr named), rfl⟩
    | .max, some text, _ =>
      rw [Reader.bind, Option.getD_some] at bound
      cases read : Reader.readScore text with
      | error refusal =>
        rw [read] at bound
        cases bound
      | ok score =>
        rw [read] at bound
        cases bound
        rw [readScore_eq_ok_iff.mp read]
        exact ⟨_, .max score, rfl⟩
    | .withoutChecks, none, _ =>
      cases bound
      exact ⟨_, .withoutChecks, rfl⟩
    | .dryRun, none, _ =>
      cases bound
      exact ⟨_, .dryRun, rfl⟩
    | .help, _, _ => exact absurd rfl acts.1
    | .version, _, _ => exact absurd rfl acts.2
  · rintro ⟨binding, gives, rfl⟩
    cases gives with
    | executable path named | results path named =>
      exact if_neg (mt List.isEmpty_iff.mp named)
    | max score =>
      rw [Option.getD_some, Reader.bind, readScore_eq_ok_iff.mpr rfl]
      rfl
    | withoutChecks | dryRun => rfl

/-! ### Readers between two options -/

namespace Reader

/-- The reader that has finished some bindings and may wait for the value of an option. -/
def after (bindings : List Binding) (waits : Option Switch) : Reader where
  options := .ofBindings bindings
  started := bindings.map Binding.switch
  pending := waits.map fun switch => ⟨switch, none⟩
  ended := false

theorem ofBindings_concat (bindings : List Binding) (binding : Binding) :
    Options.ofBindings (bindings ++ [binding]) = binding.apply (.ofBindings bindings) := by
  rw [Options.ofBindings, List.foldl_append]
  rfl

theorem distinct_concat_iff (distinct : Distinct bindings) :
    Distinct (bindings ++ [binding]) ↔ binding.switch ∉ bindings.map Binding.switch := by
  unfold Distinct at distinct ⊢
  rw [List.map_append, List.map_singleton, List.nodup_append]
  simp [distinct]

/-- An option is finished exactly if it gives a binding and was not used before. -/
theorem finish_eq_ok_iff {reader : Reader} (distinct : Distinct bindings)
    (regular : switch.takesValue = true ∨ value = none)
    (acts : switch ≠ .help ∧ switch ≠ .version) :
    (after bindings none).finish switch value = .ok reader ↔
      ∃ binding, Gives switch value binding ∧ Distinct (bindings ++ [binding]) ∧
        reader = after (bindings ++ [binding]) none := by
  unfold finish
  by_cases missing : switch.takesValue = true ∧ value.isNone = true
  · rw [if_pos missing]
    refine iff_of_false nofun ?_
    rintro ⟨binding, gives, _⟩
    cases gives <;> simp [Switch.takesValue, Switch.placeholder?] at missing
  rw [if_neg missing]
  by_cases used : switch ∈ (after bindings none).started
  · rw [if_pos used]
    refine iff_of_false nofun ?_
    rintro ⟨binding, gives, new, _⟩
    rw [distinct_concat_iff distinct, gives.switch_eq] at new
    exact new used
  rw [if_neg used]
  have present : switch.takesValue = value.isSome := by
    cases value <;> simp_all
  have finishes {binding : Binding} (gives : Gives switch value binding) :
      { after bindings none with
        options := binding.apply (after bindings none).options
        started := (after bindings none).started ++ [switch] } =
      after (bindings ++ [binding]) none := by
    simp only [after, ofBindings_concat, List.map_append, List.map_singleton, gives.switch_eq]
  constructor
  · intro finished
    cases bound : bind (after bindings none).options switch (value.getD []) with
    | error refusal =>
      rw [bound] at finished
      cases finished
    | ok options =>
      rw [bound] at finished
      cases finished
      obtain ⟨binding, gives, rfl⟩ := (bind_eq_ok_iff present acts).mp bound
      refine ⟨binding, gives, (distinct_concat_iff distinct).mpr ?_, finishes gives⟩
      rw [gives.switch_eq]
      exact used
  · rintro ⟨binding, gives, _, rfl⟩
    rw [(bind_eq_ok_iff present acts).mpr ⟨binding, gives, rfl⟩, ← finishes gives]
    rfl

/-! ### Recognised options -/

/-- Between two options one that takes a value is opened, and one that takes none is finished. -/
theorem recognise_after_eq_ok_iff {reader : Reader}
    (distinct : Distinct bindings) :
    (after bindings none).recognise switch = .ok reader ↔
      (switch.takesValue = true ∧ reader = after bindings (some switch)) ∨
        ∃ binding, Gives switch none binding ∧ Distinct (bindings ++ [binding]) ∧
          reader = after (bindings ++ [binding]) none := by
  cases switch with
  | executable | results | max =>
    constructor
    · rintro ⟨⟩
      exact .inl ⟨rfl, rfl⟩
    · rintro (⟨_, rfl⟩ | ⟨_, ⟨⟩, _⟩)
      rfl
  | withoutChecks | dryRun =>
    rw [← finish_eq_ok_iff distinct (.inr rfl) (by decide)]
    show Except.mapError _ ((after bindings none).finish _ none) = _ ↔ _
    generalize (after bindings none).finish _ none = finished
    cases finished <;> simp [Except.mapError, Switch.takesValue, Switch.placeholder?]
  | help | version =>
    refine iff_of_false nofun ?_
    rintro (⟨⟨⟩, _⟩ | ⟨_, ⟨⟩, _⟩)

theorem recogniseAttached_after_eq_ok_iff {reader : Reader} {value : Bytes}
    (distinct : Distinct bindings) (takes : switch.takesValue = true) :
    (after bindings none).recogniseAttached switch value = .ok reader ↔
      ∃ binding, Gives switch (some value) binding ∧ Distinct (bindings ++ [binding]) ∧
        reader = after (bindings ++ [binding]) none := by
  have acts : switch ≠ .help ∧ switch ≠ .version := by
    constructor <;> rintro rfl <;> cases takes
  rw [← finish_eq_ok_iff distinct (.inl takes) acts]
  unfold recogniseAttached
  show Except.mapError _ ((after bindings none).finish switch (some value)) = _ ↔ _
  cases (after bindings none).finish switch (some value) <;> simp [Except.mapError]

end Reader

/-! ### Letters -/

theorem PathOption.gives_iff {option : PathOption} {path : Bytes} :
    Gives option.switch (some path) binding ↔ path ≠ [] ∧ binding = option.bind path := by
  constructor
  · intro gives
    cases option <;> cases gives <;> exact ⟨‹_›, rfl⟩
  · rintro ⟨named, rfl⟩
    cases option
    · exact .executable path named
    · exact .results path named

/-- The letters after a dash, with what they bind and the option that waits for the next word. -/
inductive Letters : Bytes → List Binding → Option Switch → Prop where
  | none : Letters [] [] none
  | flag {rest : Bytes} {bindings : List Binding} {waits : Option Switch}
      (later : Letters rest bindings waits) :
      Letters ('t'.toUInt8 :: rest) (.withoutChecks :: bindings) waits
  | attached (option : PathOption) (ending : Bytes) (given : ending ≠ [])
      (named : attachedValue ending ≠ []) :
      Letters (option.letter :: ending) [option.bind (attachedValue ending)] none
  | waits (option : PathOption) : Letters [option.letter] [] (some option.switch)

theorem ofUInt8_eq_iff {byte : UInt8} {char : Char} (small : char.toNat < 256) :
    Char.ofUInt8 byte = char ↔ byte = char.toUInt8 := by
  rw [← Char.toNat_inj, ← UInt8.toNat_inj]
  have number : (Char.ofUInt8 byte).toNat = byte.toNat := UInt8.toNat_toUInt32 byte
  have octet : char.toUInt8.toNat = char.toNat := by
    show char.val.toUInt8.toNat = char.val.toNat
    rw [UInt32.toNat_toUInt8]
    exact Nat.mod_eq_of_lt small
  rw [number, octet]

/-- A letter is that of a path, or that of the one flag, or of no option that binds anything. -/
theorem ofLetter?_cases (byte : UInt8) :
    (∃ option : PathOption, byte = option.letter ∧
        Switch.ofLetter? (Char.ofUInt8 byte) = some option.switch) ∨
      (byte = 't'.toUInt8 ∧ Switch.ofLetter? (Char.ofUInt8 byte) = some .withoutChecks) ∨
      ((∀ option : PathOption, byte ≠ option.letter) ∧ byte ≠ 't'.toUInt8 ∧
        ∀ switch, Switch.ofLetter? (Char.ofUInt8 byte) = some switch →
          switch = .help ∨ switch = .version) := by
  by_cases executable : byte = 'e'.toUInt8
  · exact .inl ⟨.executable, executable, by rw [executable]; decide⟩
  by_cases results : byte = 'r'.toUInt8
  · exact .inl ⟨.results, results, by rw [results]; decide⟩
  by_cases withoutChecks : byte = 't'.toUInt8
  · exact .inr (.inl ⟨withoutChecks, by rw [withoutChecks]; decide⟩)
  refine .inr (.inr ⟨?_, withoutChecks, fun switch found => ?_⟩)
  · rintro (_ | _)
    · exact executable
    · exact results
  · have same := List.find?_some found
    have spelled : switch.letter? = some (Char.ofUInt8 byte) := of_decide_eq_true same
    have octet {char : Char} (small : char.toNat < 256)
        (same : some char = some (Char.ofUInt8 byte)) : byte = char.toUInt8 :=
      (ofUInt8_eq_iff small).mp (Option.some.inj same).symm
    cases switch with
    | executable => exact absurd (octet (by decide) spelled) executable
    | results => exact absurd (octet (by decide) spelled) results
    | withoutChecks => exact absurd (octet (by decide) spelled) withoutChecks
    | max | dryRun => cases spelled
    | help => exact .inl rfl
    | version => exact .inr rfl

theorem letters_flag_iff {rest : Bytes} {waits : Option Switch} :
    Letters ('t'.toUInt8 :: rest) more waits ↔
      ∃ later, more = .withoutChecks :: later ∧ Letters rest later waits := by
  constructor
  · intro spelled
    generalize same : 't'.toUInt8 :: rest = letters at spelled
    cases spelled with
    | none => cases same
    | flag later =>
      cases (List.cons.inj same).2
      exact ⟨_, rfl, later⟩
    | attached option ending given named | waits option =>
      cases option <;> cases (List.cons.inj same).1
  · rintro ⟨later, rfl, spelled⟩
    exact .flag spelled

theorem letters_option_iff {option : PathOption} {rest : Bytes} {waits : Option Switch} :
    Letters (option.letter :: rest) more waits ↔
      (rest = [] ∧ more = [] ∧ waits = some option.switch) ∨
        (rest ≠ [] ∧ attachedValue rest ≠ [] ∧ more = [option.bind (attachedValue rest)] ∧
          waits = none) := by
  constructor
  · intro spelled
    have letter_injective {other : PathOption} (same : option.letter = other.letter) :
        option = other := by
      cases option <;> cases other <;> first | rfl | cases same
    generalize same : option.letter :: rest = letters at spelled
    cases spelled with
    | none => cases same
    | flag later => cases option <;> cases (List.cons.inj same).1
    | attached other ending given named =>
      obtain ⟨first, rfl⟩ := List.cons.inj same
      cases letter_injective first
      exact .inr ⟨given, named, rfl, rfl⟩
    | waits other =>
      obtain ⟨first, rfl⟩ := List.cons.inj same
      cases letter_injective first
      exact .inl ⟨rfl, rfl, rfl⟩
  · rintro (⟨rfl, rfl, rfl⟩ | ⟨given, named, rfl, rfl⟩)
    · exact .waits option
    · exact .attached option rest given named

theorem bind_eq_ok {Error First Second : Type} {tried : Except Error First}
    {next : First → Except Error Second} {last : Second} :
    tried >>= next = .ok last ↔ ∃ first, tried = .ok first ∧ next first = .ok last := by
  cases tried with
  | error error => exact iff_of_false nofun nofun
  | ok first =>
    constructor
    · intro succeeds
      exact ⟨first, rfl, succeeds⟩
    · rintro ⟨_, ⟨⟩, succeeds⟩
      exact succeeds

namespace Reader

/-- Whether letters are read between two options exactly if they are letters of options that were
not used before. -/
def ReadsLetters (letters : Bytes) : Prop :=
  ∀ (bindings : List Binding) (reader : Reader), Distinct bindings →
    ((after bindings none).readLetters letters = .ok reader ↔
      ∃ more waits, Letters letters more waits ∧ Distinct (bindings ++ more) ∧
        reader = after (bindings ++ more) waits)

theorem readsLetters_nil : ReadsLetters [] := by
  intro bindings reader distinct
  rw [readLetters]
  constructor
  · rintro ⟨⟩
    exact ⟨[], none, .none, by rwa [List.append_nil], by rw [List.append_nil]⟩
  · rintro ⟨_, _, ⟨⟩, _, rfl⟩
    rw [List.append_nil]

/-- The letter of a path has the rest of the word for its value, or waits for the next word. -/
theorem readsLetters_option {option : PathOption} {rest : Bytes}
    (found : Switch.ofLetter? (Char.ofUInt8 option.letter) = some option.switch) :
    ReadsLetters (option.letter :: rest) := by
  intro bindings reader distinct
  rw [readLetters, found]
  dsimp only
  simp only [letters_option_iff]
  by_cases nothing : rest = []
  · subst nothing
    rw [if_neg (by simp), bind_eq_ok]
    simp only [readLetters, Except.ok.injEq, exists_eq_right]
    rw [recognise_after_eq_ok_iff distinct]
    constructor
    · rintro (⟨_, rfl⟩ | ⟨_, gives, _⟩)
      · exact ⟨[], _, .inl ⟨trivial, rfl, rfl⟩, by rwa [List.append_nil], by rw [List.append_nil]⟩
      · cases option <;> cases gives
    · rintro ⟨_, _, ⟨_, rfl, rfl⟩ | ⟨given, _⟩, _, rfl⟩
      · rw [List.append_nil]
        exact .inl ⟨option.takesValue_switch, rfl⟩
      · exact absurd rfl given
  · rw [if_pos ⟨option.takesValue_switch, by simpa using nothing⟩,
      recogniseAttached_after_eq_ok_iff distinct option.takesValue_switch]
    simp only [PathOption.gives_iff]
    constructor
    · rintro ⟨_, ⟨named, rfl⟩, new, rfl⟩
      exact ⟨_, none, .inr ⟨nothing, named, rfl, rfl⟩, new, rfl⟩
    · rintro ⟨_, _, ⟨none, _⟩ | ⟨_, named, rfl, rfl⟩, new, rfl⟩
      · exact absurd none nothing
      · exact ⟨_, ⟨named, rfl⟩, new, rfl⟩

/-- The letter of a flag leaves the rest of the word to be read. -/
theorem readsLetters_flag {rest : Bytes}
    (found : Switch.ofLetter? (Char.ofUInt8 't'.toUInt8) = some .withoutChecks)
    (later : ReadsLetters rest) : ReadsLetters ('t'.toUInt8 :: rest) := by
  intro bindings reader distinct
  rw [readLetters, found]
  dsimp only
  rw [if_neg (by simp [Switch.takesValue, Switch.placeholder?]), bind_eq_ok]
  simp only [letters_flag_iff, recognise_after_eq_ok_iff distinct]
  constructor
  · rintro ⟨_, ⟨⟨⟩, _⟩ | ⟨_, ⟨⟩, new, rfl⟩, reads⟩
    obtain ⟨others, waits, spelled, newLater, rfl⟩ := (later _ _ new).mp reads
    rw [List.append_assoc] at newLater ⊢
    exact ⟨_, waits, ⟨others, rfl, spelled⟩, newLater, rfl⟩
  · rintro ⟨_, waits, ⟨others, rfl, spelled⟩, new, rfl⟩
    rw [List.append_cons] at new ⊢
    have first := new.of_append
    exact ⟨_, .inr ⟨_, .withoutChecks, first, rfl⟩,
      (later _ _ first).mpr ⟨others, waits, spelled, new, rfl⟩⟩

theorem readsLetters_other {byte : UInt8} {rest : Bytes}
    (path : ∀ option : PathOption, byte ≠ option.letter) (flag : byte ≠ 't'.toUInt8)
    (acts : ∀ switch, Switch.ofLetter? (Char.ofUInt8 byte) = some switch →
      switch = .help ∨ switch = .version) :
    ReadsLetters (byte :: rest) := by
  intro bindings reader distinct
  refine iff_of_false (fun reads => ?_) ?_
  · rw [readLetters] at reads
    cases found : Switch.ofLetter? (Char.ofUInt8 byte) with
    | none =>
      rw [found] at reads
      cases reads
    | some switch =>
      rw [found] at reads
      dsimp only at reads
      rcases acts switch found with rfl | rfl <;>
      · rw [if_neg (by simp [Switch.takesValue, Switch.placeholder?]), bind_eq_ok] at reads
        obtain ⟨_, ⟨⟩, _⟩ := reads
  · rintro ⟨_, _, spelled, _⟩
    cases spelled with
    | flag => exact flag rfl
    | attached option | waits option => exact path option rfl

theorem readsLetters (letters : Bytes) : ReadsLetters letters := by
  induction letters with
  | nil => exact readsLetters_nil
  | cons byte rest inductionHypothesis =>
    rcases ofLetter?_cases byte with ⟨option, rfl, found⟩ | ⟨rfl, found⟩ | ⟨path, flag, acts⟩
    · exact readsLetters_option found
    · exact readsLetters_flag found inductionHypothesis
    · exact readsLetters_other path flag acts

end Reader

/-! ### Long options -/

/-- What follows two dashes, with what it binds and the option that waits for the next word. -/
inductive Long : Bytes → List Binding → Option Switch → Prop where
  | dryRun : Long (Bytes.ofString "dry-run") [.dryRun] none
  | attached (score : MaxScore) :
      Long (Bytes.ofString "max" ++ '='.toUInt8 :: Bytes.ofString score.text) [.max score] none
  | waits : Long (Bytes.ofString "max") [] (some .max)

theorem ofName?_eq_some_iff {name : Bytes} :
    Switch.ofName? name = some switch ↔ ∃ text, switch.name? = some text ∧
      name = Bytes.ofString text := by
  constructor
  · intro found
    have spelled := List.find?_some found
    obtain ⟨text, named, same⟩ := Option.map_eq_some_iff.mp (of_decide_eq_true spelled)
    exact ⟨text, named, same.symm⟩
  · rintro ⟨text, named, rfl⟩
    cases switch <;> cases named <;> decide

/-- A name without an equals sign, and the value that is attached to it if there is one. -/
theorem body_eq (body : Bytes) :
    let name := body.takeWhile (· ≠ '='.toUInt8)
    match (body.dropWhile (· ≠ '='.toUInt8)).tail? with
    | none => body = name
    | some value => body = name ++ '='.toUInt8 :: value := by
  intro name
  have whole : name ++ body.dropWhile (· ≠ '='.toUInt8) = body := List.takeWhile_append_dropWhile
  have begins := List.head?_dropWhile_not (· ≠ '='.toUInt8) body
  cases attached : body.dropWhile (· ≠ '='.toUInt8) with
  | nil =>
    rw [attached, List.append_nil] at whole
    exact whole.symm
  | cons first value =>
    rw [attached] at begins whole
    have equals : first = '='.toUInt8 := by simpa using begins
    rw [equals] at whole
    exact whole.symm

namespace Reader

theorem readLong_after_eq_ok_iff {body : Bytes} {reader : Reader}
    (distinct : Distinct bindings) :
    (after bindings none).readLong body = .ok reader ↔
      ∃ more waits, Long body more waits ∧ Distinct (bindings ++ more) ∧
        reader = after (bindings ++ more) waits := by
  constructor
  · intro reads
    have spelled := body_eq body
    unfold readLong at reads
    dsimp only at reads spelled
    generalize body.takeWhile (· ≠ '='.toUInt8) = name at reads spelled
    generalize (body.dropWhile (· ≠ '='.toUInt8)).tail? = attached at reads spelled
    cases found : Switch.ofName? name with
    | none =>
      rw [found] at reads
      cases reads
    | some switch =>
      rw [found] at reads
      obtain ⟨text, named, rfl⟩ := ofName?_eq_some_iff.mp found
      cases attached with
      | none =>
        subst spelled
        rcases (recognise_after_eq_ok_iff distinct).mp reads with
          ⟨takes, rfl⟩ | ⟨_, gives, new, rfl⟩
        · cases switch <;> cases takes <;> cases named
          exact ⟨[], _, .waits, by rwa [List.append_nil], by rw [List.append_nil]⟩
        · cases gives <;> cases named
          exact ⟨_, none, .dryRun, new, rfl⟩
      | some value =>
        subst spelled
        dsimp only at reads
        by_cases takes : switch.takesValue
        · rw [if_pos takes, recogniseAttached_after_eq_ok_iff distinct takes] at reads
          obtain ⟨_, gives, new, rfl⟩ := reads
          cases gives <;> cases named
          exact ⟨_, none, .attached _, new, rfl⟩
        · rw [if_neg takes] at reads
          cases reads
  · rintro ⟨more, waits, spelled, new, rfl⟩
    cases spelled with
    | dryRun =>
      have reads : (after bindings none).readLong (Bytes.ofString "dry-run") =
          (after bindings none).recognise .dryRun := rfl
      rw [reads, recognise_after_eq_ok_iff distinct]
      exact .inr ⟨.dryRun, .dryRun, new, rfl⟩
    | attached score =>
      have reads : (after bindings none).readLong
          (Bytes.ofString "max" ++ '='.toUInt8 :: Bytes.ofString score.text) =
          (after bindings none).recogniseAttached .max (Bytes.ofString score.text) := by
        cases score <;> rfl
      rw [reads, recogniseAttached_after_eq_ok_iff distinct rfl]
      exact ⟨.max score, .max score, new, rfl⟩
    | waits =>
      have reads : (after bindings none).readLong (Bytes.ofString "max") =
          (after bindings none).recognise .max := rfl
      rw [reads, recognise_after_eq_ok_iff distinct, List.append_nil]
      exact .inl ⟨rfl, rfl⟩

end Reader

variable {word : Bytes} {waits : Option Switch} {reader : Reader}

/-! ### Whole words -/

/-- A word of options, with what it binds and the option that waits for the next word. -/
inductive OptionWord : Bytes → List Binding → Option Switch → Prop where
  | short {letters : Bytes} {bindings : List Binding} {waits : Option Switch}
      (given : letters ≠ []) (spelled : Letters letters bindings waits) :
      OptionWord (dash :: letters) bindings waits
  | long {body : Bytes} {bindings : List Binding} {waits : Option Switch}
      (spelled : Long body bindings waits) : OptionWord (dash :: dash :: body) bindings waits

theorem Letters.head?_ne_dash {letters : Bytes} (spelled : Letters letters more waits) :
    letters.head? ≠ some dash := by
  cases spelled with
  | none => simp
  | flag =>
    rw [List.head?_cons, ne_eq, Option.some.injEq]
    decide
  | attached option | waits option =>
    rw [List.head?_cons, ne_eq, Option.some.injEq]
    cases option <;> decide

theorem Long.ne_nil {body : Bytes} (spelled : Long body more waits) : body ≠ [] := by
  cases spelled <;> simp [Bytes.ofString]

theorem OptionWord.not_standsAlone (spelled : OptionWord word more waits) :
    ¬ StandsAlone word := by
  cases spelled with
  | short given => simp [StandsAlone, given]
  | long => simp [StandsAlone]

theorem OptionWord.ne_dashes (spelled : OptionWord word more waits) : word ≠ [dash, dash] := by
  cases spelled with
  | short given spelled =>
    rintro ⟨⟩
    exact spelled.head?_ne_dash rfl
  | long spelled => simp [spelled.ne_nil]

namespace Reader

theorem readWord_of_standsAlone (goesOn : reader.ended = false) (alone : StandsAlone word) :
    reader.readWord word = reader.readPlain word := by
  unfold readWord
  rw [if_neg (by simp [goesOn])]
  cases word with
  | nil => rfl
  | cons byte rest =>
    refine if_pos ?_
    by_cases begins : byte = '-'.toUInt8
    · exact .inr (by simpa [StandsAlone, dash, begins] using alone)
    · exact .inl begins

/-- Nothing can be made of a plain word that no option waits for. -/
theorem readPlain_ne_ok (satisfied : ∀ switch, reader.pending ≠ some ⟨switch, none⟩)
    (next : Reader) : reader.readPlain word ≠ .ok next := by
  unfold readPlain
  split
  · rename_i switch waits
    exact absurd waits (satisfied switch)
  · nofun

theorem readWord_dashes (goesOn : reader.ended = false) :
    reader.readWord [dash, dash] = .ok { reader with ended := true } := by
  unfold readWord
  rw [if_neg (by simp [goesOn])]
  rfl

theorem readWord_short (goesOn : reader.ended = false) {letters : Bytes} (given : letters ≠ [])
    (letter : letters.head? ≠ some dash) :
    reader.readWord (dash :: letters) = reader.readLetters letters := by
  unfold readWord
  rw [if_neg (by simp [goesOn])]
  dsimp only
  rw [if_neg (by simpa [dash] using given)]
  exact if_pos letter

theorem readWord_long (goesOn : reader.ended = false) {body : Bytes} (given : body ≠ []) :
    reader.readWord (dash :: dash :: body) = reader.readLong body := by
  unfold readWord
  rw [if_neg (by simp [goesOn])]
  dsimp only
  rw [if_neg (by simp [dash]), if_neg (by simp [dash]), if_neg (by simpa using given)]
  rfl

/-- A word stands alone, or ends the options, or is read as letters or as a long option. -/
theorem word_cases (word : Bytes) :
    StandsAlone word ∨ word = [dash, dash] ∨
      (∃ letters, word = dash :: letters ∧ letters ≠ [] ∧ letters.head? ≠ some dash) ∨
      ∃ body, word = dash :: dash :: body ∧ body ≠ [] := by
  by_cases alone : StandsAlone word
  · exact .inl alone
  refine .inr ?_
  obtain ⟨notAlone, begins⟩ := not_or.mp alone
  rw [not_not] at begins
  obtain ⟨letters, rfl⟩ := List.head?_eq_some_iff.mp begins
  by_cases long : letters.head? = some dash
  · obtain ⟨body, rfl⟩ := List.head?_eq_some_iff.mp long
    by_cases nothing : body = []
    · exact .inl (by rw [nothing])
    · exact .inr (.inr ⟨body, rfl, nothing⟩)
  · exact .inr (.inl ⟨letters, rfl, by simpa using notAlone, long⟩)

/-- Between two options a word that does not stand alone and does not end the options is read
exactly if it spells options that were not used before. -/
theorem readWord_after_eq_ok_iff (distinct : Distinct bindings)
    (alone : ¬ StandsAlone word) (goesOn : word ≠ [dash, dash]) :
    (after bindings none).readWord word = .ok reader ↔
      ∃ more waits, OptionWord word more waits ∧ Distinct (bindings ++ more) ∧
        reader = after (bindings ++ more) waits := by
  rcases word_cases word with stands | rfl | ⟨letters, rfl, given, letter⟩ | ⟨body, rfl, given⟩
  · exact absurd stands alone
  · exact absurd rfl goesOn
  · rw [readWord_short (by rfl) given letter, readsLetters letters bindings reader distinct]
    constructor
    · rintro ⟨more, waits, spelled, rest⟩
      exact ⟨more, waits, .short given spelled, rest⟩
    · rintro ⟨more, waits, ⟨_, spelled⟩ | ⟨_⟩, rest⟩
      · exact ⟨more, waits, spelled, rest⟩
      · exact absurd rfl letter
  · rw [readWord_long (by rfl) given, readLong_after_eq_ok_iff distinct]
    constructor
    · rintro ⟨more, waits, spelled, rest⟩
      exact ⟨more, waits, .long spelled, rest⟩
    · rintro ⟨more, waits, ⟨_, spelled⟩ | ⟨spelled⟩, rest⟩
      · exact absurd rfl spelled.head?_ne_dash
      · exact ⟨more, waits, spelled, rest⟩

end Reader

end ShellSmoke.CommandLine
