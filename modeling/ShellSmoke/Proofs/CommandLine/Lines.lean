/-
This file reads whole command lines. The option that a word leaves open is finished either by the
end of the line or by the next option, and it makes no difference to what is accepted if it is
finished right away. A line can so be read item by item, as the grammar has it: what is read is
spelled by items, and what items spell is read, to the options that they bind.
-/

import ShellSmoke.Proofs.CommandLine.Words

namespace ShellSmoke.CommandLine

variable {bindings first later more others : List Binding} {binding : Binding} {switch : Switch}
  {waits : Option Switch} {word value : Bytes} {words : List Bytes} {reader : Reader}
  {options : Options}

namespace Reader

/-! ### What is open is finished first -/

theorem settle_of_pending_eq_none (settled : reader.pending = none) :
    reader.settle = .ok reader := by
  rw [settle, settled]

theorem exists_of_settle {settled : Reader} (settles : reader.settle = .ok settled) :
    ∃ options started, settled = { reader with options, started, pending := none } := by
  unfold settle at settles
  split at settles
  · rename_i nothing
    cases settles
    exact ⟨reader.options, reader.started, by rw [← nothing]⟩
  · rename_i opened _
    unfold finish at settles
    split_ifs at settles
    cases bound : bind reader.options opened.switch (opened.value.getD []) with
    | error refusal =>
      rw [bound] at settles
      cases settles
    | ok options =>
      rw [bound] at settles
      cases settles
      exact ⟨options, _, rfl⟩

theorem pending_of_settle {settled : Reader} (settles : reader.settle = .ok settled) :
    settled.pending = none := by
  obtain ⟨options, started, rfl⟩ := exists_of_settle settles
  rfl

theorem ended_of_settle {settled : Reader} (settles : reader.settle = .ok settled) :
    settled.ended = reader.ended := by
  obtain ⟨options, started, rfl⟩ := exists_of_settle settles
  rfl

theorem settle_ended :
    settle { reader with ended := true } =
      reader.settle.map fun settled => { settled with ended := true } := by
  obtain ⟨options, started, pending, ended⟩ := reader
  cases pending with
  | none => rfl
  | some opened =>
    unfold settle finish
    dsimp only
    split_ifs
    · rfl
    · rfl
    · cases bind options opened.switch (opened.value.getD []) <;> rfl

/-- Whether it makes no difference to what is done with a reader that the open option is finished
before. -/
def SettlesFirst {Result : Type} (act : Reader → Except Stop Result) (reader : Reader) : Prop :=
  ∀ result, act reader = .ok result ↔
    ∃ settled, reader.settle = .ok settled ∧ act settled = .ok result

variable {Result Last : Type} {act other : Reader → Except Stop Result}

theorem settlesFirst_error (stop : Reader → Stop) :
    SettlesFirst (fun reader => (.error (stop reader) : Except Stop Result)) reader := by
  intro result
  simp

theorem settlesFirst_of_settle (next : Reader → Except Stop Result)
    (acts : ∀ reader, act reader = reader.settle.mapError .refused >>= next) :
    SettlesFirst act reader := by
  intro result
  rw [acts]
  cases settles : reader.settle with
  | error refusal => exact iff_of_false nofun nofun
  | ok settled =>
    have again := settle_of_pending_eq_none (pending_of_settle settles)
    simp only [acts, again, Except.ok.injEq, exists_eq_left']

theorem SettlesFirst.bind (first : SettlesFirst act reader) (next : Result → Except Stop Last) :
    SettlesFirst (fun reader => act reader >>= next) reader := by
  intro last
  simp only [bind_eq_ok]
  constructor
  · rintro ⟨result, acted, goesOn⟩
    obtain ⟨settled, settles, acted⟩ := (first result).mp acted
    exact ⟨settled, settles, result, acted, goesOn⟩
  · rintro ⟨settled, settles, result, acted, goesOn⟩
    exact ⟨result, (first result).mpr ⟨settled, settles, acted⟩, goesOn⟩

theorem SettlesFirst.congr (first : SettlesFirst other reader)
    (same : ∀ next, next.ended = reader.ended → act next = other next) :
    SettlesFirst act reader := by
  intro result
  rw [same reader rfl, first result]
  refine exists_congr fun settled => and_congr_right fun settles => ?_
  rw [same settled (ended_of_settle settles)]

theorem settlesFirst_recognise : SettlesFirst (recognise · switch) reader :=
  settlesFirst_of_settle _ fun _ => rfl

theorem settlesFirst_recogniseAttached :
    SettlesFirst (recogniseAttached · switch value) reader := by
  refine settlesFirst_of_settle
    (fun settled => (settled.finish switch (some value)).mapError .refused) fun reader => ?_
  unfold recogniseAttached
  cases reader.settle <;> rfl

theorem settlesFirst_readLetters {letters : Bytes} (given : letters ≠ []) :
    SettlesFirst (readLetters · letters) reader := by
  obtain ⟨byte, rest, rfl⟩ := List.exists_cons_of_ne_nil given
  unfold readLetters
  cases Switch.ofLetter? (Char.ofUInt8 byte) with
  | none => exact settlesFirst_error _
  | some switch =>
    by_cases attached : switch.takesValue ∧ ¬ rest.isEmpty
    · simp only [if_pos attached]
      exact settlesFirst_recogniseAttached
    · simp only [if_neg attached]
      exact settlesFirst_recognise.bind (readLetters · rest)

theorem settlesFirst_readLong {body : Bytes} : SettlesFirst (readLong · body) reader := by
  unfold readLong
  dsimp only
  cases Switch.ofName? (body.takeWhile (· ≠ '='.toUInt8)) with
  | none => exact settlesFirst_error _
  | some switch =>
    cases (body.dropWhile (· ≠ '='.toUInt8)).tail? with
    | none => exact settlesFirst_recognise
    | some value =>
      by_cases takes : switch.takesValue
      · simp only [if_pos takes]
        exact settlesFirst_recogniseAttached
      · simp only [if_neg takes]
        exact settlesFirst_error _

/-! ### The rest of a line -/

/-- Reads words up to the end of the line. -/
def readAll (reader : Reader) (words : List Bytes) : Except Stop Options := do
  let reader ← words.foldlM readWord reader
  let reader ← reader.settle.mapError .refused
  .ok reader.options

theorem readAll_nil_eq_ok_iff :
    reader.readAll [] = .ok options ↔
      ∃ settled, reader.settle = .ok settled ∧ settled.options = options := by
  show (reader.settle.mapError Stop.refused >>= fun settled => .ok settled.options) = _ ↔ _
  cases reader.settle <;> simp [Except.mapError, Bind.bind, Except.bind]

theorem readAll_cons :
    reader.readAll (word :: words) = reader.readWord word >>= fun next => next.readAll words := by
  unfold readAll
  rw [List.foldlM_cons, bind_assoc]

theorem readAll_cons_eq_ok_iff :
    reader.readAll (word :: words) = .ok options ↔
      ∃ next, reader.readWord word = .ok next ∧ next.readAll words = .ok options := by
  rw [readAll_cons, bind_eq_ok]

/-- Nothing may follow the word that ends the options. -/
theorem readAll_dashes_eq_ok_iff (goesOn : reader.ended = false) :
    reader.readAll ([dash, dash] :: words) = .ok options ↔
      words = [] ∧ reader.readAll [] = .ok options := by
  rw [readAll_cons_eq_ok_iff, readWord_dashes goesOn]
  simp only [Except.ok.injEq, exists_eq_left']
  cases words with
  | nil =>
    simp only [true_and, readAll_nil_eq_ok_iff, settle_ended]
    cases reader.settle <;> simp [Except.map]
  | cons word words =>
    rw [readAll_cons_eq_ok_iff]
    simp [readWord]

/-- The open option can be finished before the rest of the line is read, except by a word that it
waits for. -/
theorem settlesFirst_readAll (goesOn : reader.ended = false)
    (unanswered : ∀ word ∈ words.head?, StandsAlone word →
      ∀ switch, reader.pending ≠ some ⟨switch, none⟩) :
    SettlesFirst (readAll · words) reader := by
  have stops : SettlesFirst (readAll · []) reader :=
    settlesFirst_of_settle (fun settled => .ok settled.options) fun _ => rfl
  cases words with
  | nil => exact stops
  | cons word words =>
    have reads {read : Reader → Except Stop Reader} (first : SettlesFirst read reader)
        (reads : ∀ next, next.ended = false → next.readWord word = read next) :
        SettlesFirst (readAll · (word :: words)) reader :=
      (first.bind (readAll · words)).congr fun next same => by
        rw [readAll_cons, reads next (by rw [same, goesOn])]
    rcases word_cases word with stands | rfl | ⟨letters, rfl, given, letter⟩ | ⟨body, rfl, given⟩
    · intro options
      have fails {next : Reader} (goesOn : next.ended = false)
          (satisfied : ∀ switch, next.pending ≠ some ⟨switch, none⟩) :
          next.readAll (word :: words) ≠ .ok options := by
        intro succeeds
        obtain ⟨last, reads, _⟩ := readAll_cons_eq_ok_iff.mp succeeds
        rw [readWord_of_standsAlone goesOn stands] at reads
        exact readPlain_ne_ok satisfied last reads
      refine iff_of_false (fails goesOn (unanswered word rfl stands)) ?_
      rintro ⟨settled, settles, succeeds⟩
      refine fails ?_ ?_ succeeds
      · rw [ended_of_settle settles, goesOn]
      · simp [pending_of_settle settles]
    · intro options
      rw [readAll_dashes_eq_ok_iff goesOn, stops options]
      simp only [← exists_and_left, and_left_comm (a := words = [])]
      refine exists_congr fun settled => and_congr_right fun settles => ?_
      rw [readAll_dashes_eq_ok_iff (by rw [ended_of_settle settles, goesOn])]
    · exact reads (settlesFirst_readLetters given) fun next goesOn =>
        readWord_short goesOn given letter
    · exact reads settlesFirst_readLong fun next goesOn => readWord_long goesOn given

end Reader

/-! ### Items, word by word -/

theorem Letters.flags {letters : Bytes} (flags : Nat) (spelled : Letters letters more waits) :
    Letters (List.replicate flags 't'.toUInt8 ++ letters)
      (List.replicate flags .withoutChecks ++ more) waits := by
  induction flags with
  | zero => exact spelled
  | succ flags inductionHypothesis =>
    simp only [List.replicate_succ, List.cons_append]
    exact .flag inductionHypothesis

/-- Letters are flags, and then no letter or that of a path. -/
theorem Letters.exists_flags {letters : Bytes} (spelled : Letters letters more waits) :
    ∃ flags ending rest, letters = List.replicate flags 't'.toUInt8 ++ ending ∧
      more = List.replicate flags .withoutChecks ++ rest ∧ Letters ending rest waits ∧
      ending.head? ≠ some 't'.toUInt8 := by
  induction spelled with
  | none => exact ⟨0, [], [], rfl, rfl, .none, by simp⟩
  | flag later inductionHypothesis =>
    obtain ⟨flags, ending, rest, rfl, rfl, spelled, other⟩ := inductionHypothesis
    exact ⟨flags + 1, ending, rest, rfl, rfl, spelled, other⟩
  | attached option ending given named =>
    refine ⟨0, _, _, rfl, rfl, .attached option ending given named, ?_⟩
    cases option <;> simp [PathOption.letter] <;> decide
  | waits option =>
    refine ⟨0, _, _, rfl, rfl, .waits option, ?_⟩
    cases option <;> decide

/-- The words of an item as they are read: a word of options, and the word that the last of them
waits for, if it does. -/
inductive ItemWords : List Bytes → List Binding → Prop where
  | single {word : Bytes} {bindings : List Binding} (spelled : OptionWord word bindings none) :
      ItemWords [word] bindings
  | pair {word value : Bytes} {bindings : List Binding} {switch : Switch} {binding : Binding}
      (spelled : OptionWord word bindings (some switch)) (alone : StandsAlone value)
      (gives : Gives switch (some value) binding) : ItemWords [word, value] (bindings ++ [binding])

theorem standsAlone_text (score : MaxScore) : StandsAlone (Bytes.ofString score.text) := by
  right
  cases score <;> decide

theorem ofString_maxAttached (score : MaxScore) :
    Bytes.ofString ("--max=" ++ score.text) =
      dash :: dash :: (Bytes.ofString "max" ++ '='.toUInt8 :: Bytes.ofString score.text) := by
  cases score <;> decide

theorem itemWords_of_item (item : Item words more) : ItemWords words more := by
  cases item with
  | dryRun =>
    have spelled : Bytes.ofString "--dry-run" = dash :: dash :: Bytes.ofString "dry-run" := by
      decide
    rw [spelled]
    exact .single (.long .dryRun)
  | maxAttached score =>
    rw [ofString_maxAttached]
    exact .single (.long (.attached score))
  | maxSeparate score =>
    have spelled : Bytes.ofString "--max" = dash :: dash :: Bytes.ofString "max" := by decide
    rw [spelled]
    exact .pair (.long .waits) (standsAlone_text score) (.max score)
  | flags flags =>
    have spelled := Letters.none.flags (flags + 1)
    rw [List.append_nil (List.replicate _ Binding.withoutChecks)] at spelled
    exact .single (.short (by simp) spelled)
  | pathAttached flags option ending given named =>
    exact .single (.short (by simp) ((Letters.attached option ending given named).flags flags))
  | pathSeparate flags option path named alone =>
    have spelled := (Letters.waits option).flags flags
    rw [List.append_nil] at spelled
    exact .pair (.short (by simp) spelled) alone (PathOption.gives_iff.mpr ⟨named, rfl⟩)

theorem item_of_itemWords (read : ItemWords words more) : Item words more := by
  cases read with
  | single spelled =>
    cases spelled with
    | short letters spelled =>
      obtain ⟨flags, ending, rest, rfl, rfl, spelled, other⟩ := spelled.exists_flags
      cases spelled with
      | none =>
        obtain ⟨fewer, rfl⟩ := Nat.exists_eq_succ_of_ne_zero (n := flags) (by simpa using letters)
        have item := Item.flags fewer
        rw [cluster, List.append_nil] at item
        simpa using item
      | flag => exact absurd rfl other
      | attached option ending given named =>
        exact .pathAttached flags option ending given named
    | long spelled =>
      cases spelled with
      | dryRun => exact .dryRun
      | attached score =>
        rw [← ofString_maxAttached]
        exact .maxAttached score
  | pair spelled alone gives =>
    cases spelled with
    | short given spelled =>
      obtain ⟨flags, ending, rest, rfl, rfl, spelled, other⟩ := spelled.exists_flags
      cases spelled with
      | flag => exact absurd rfl other
      | waits option =>
        obtain ⟨named, rfl⟩ := PathOption.gives_iff.mp gives
        rw [List.append_nil]
        exact .pathSeparate flags option _ named alone
    | long spelled =>
      cases spelled
      cases gives
      exact .maxSeparate _

/-! ### Whole lines -/

/-- The words from a place between two options to the end of a line, and what they bind. -/
inductive RestOfLine : List Bytes → List Binding → Prop where
  | none : RestOfLine [] []
  | dashes : RestOfLine [[dash, dash]] []
  | single {word : Bytes} {words : List Bytes} {first later : List Binding}
      (spelled : OptionWord word first none) (rest : RestOfLine words later) :
      RestOfLine (word :: words) (first ++ later)
  | pair {word value : Bytes} {words : List Bytes} {first later : List Binding} {switch : Switch}
      {binding : Binding} (spelled : OptionWord word first (some switch))
      (alone : StandsAlone value) (gives : Gives switch (some value) binding)
      (rest : RestOfLine words later) :
      RestOfLine (word :: value :: words) (first ++ [binding] ++ later)

theorem RestOfLine.of_items {front : List Bytes} (items : Items front first)
    (rest : RestOfLine words later) : RestOfLine (front ++ words) (first ++ later) := by
  induction items with
  | none => exact rest
  | cons item items inductionHypothesis =>
    rw [List.append_assoc, List.append_assoc]
    cases itemWords_of_item item with
    | single spelled => exact .single spelled inductionHypothesis
    | pair spelled alone gives => exact .pair spelled alone gives inductionHypothesis

theorem restOfLine_iff :
    RestOfLine words more ↔
      Items words more ∨ ∃ front, words = front ++ [[dash, dash]] ∧ Items front more := by
  have append {front words : List Bytes} {first later : List Binding}
      (item : ItemWords front first)
      (rest : Items words later ∨ ∃ front, words = front ++ [[dash, dash]] ∧ Items front later) :
      Items (front ++ words) (first ++ later) ∨
        ∃ all, front ++ words = all ++ [[dash, dash]] ∧ Items all (first ++ later) := by
    rcases rest with items | ⟨more, rfl, items⟩
    · exact .inl (.cons (item_of_itemWords item) items)
    · exact .inr ⟨_, (List.append_assoc ..).symm, .cons (item_of_itemWords item) items⟩
  constructor
  · intro rest
    induction rest with
    | none => exact .inl .none
    | dashes => exact .inr ⟨[], rfl, .none⟩
    | single spelled rest inductionHypothesis => exact append (.single spelled) inductionHypothesis
    | pair spelled alone gives rest inductionHypothesis =>
      exact append (.pair spelled alone gives) inductionHypothesis
  · rintro (items | ⟨front, rfl, items⟩)
    · simpa using RestOfLine.of_items items .none
    · simpa using RestOfLine.of_items items .dashes

theorem line_iff : Line words bindings ↔ RestOfLine words bindings ∧ Distinct bindings := by
  rw [restOfLine_iff]
  rfl

theorem OptionWord.takesValue (spelled : OptionWord word more (some switch)) :
    switch.takesValue = true := by
  cases spelled with
  | short given spelled =>
    obtain ⟨flags, ending, rest, rfl, rfl, spelled, other⟩ := spelled.exists_flags
    cases spelled with
    | flag => exact absurd rfl other
    | waits option => exact option.takesValue_switch
  | long spelled =>
    cases spelled
    rfl

namespace Reader

/-- An option that waits for a value is bound to the next word. -/
theorem readAll_after_some_eq_ok_iff (distinct : Distinct bindings)
    (takes : switch.takesValue = true) :
    (after bindings (some switch)).readAll words = .ok options ↔
      ∃ value rest binding, words = value :: rest ∧ StandsAlone value ∧
        Gives switch (some value) binding ∧ Distinct (bindings ++ [binding]) ∧
        (after (bindings ++ [binding]) none).readAll rest = .ok options := by
  have acts : switch ≠ .help ∧ switch ≠ .version := by
    constructor <;> rintro rfl <;> cases takes
  by_cases answered : ∃ value rest, words = value :: rest ∧ StandsAlone value
  · obtain ⟨value, rest, rfl, alone⟩ := answered
    -- The word is taken, and its option is then finished before anything else.
    have given : (after bindings (some switch)).readWord value =
        .ok { after bindings none with pending := some ⟨switch, some value⟩ } :=
      readWord_of_standsAlone rfl alone
    have settles : SettlesFirst (readAll · rest)
        { after bindings none with pending := some ⟨switch, some value⟩ } :=
      settlesFirst_readAll rfl (by simp)
    have finishes (settled : Reader) :
        settle { after bindings none with pending := some ⟨switch, some value⟩ } = .ok settled ↔
          ∃ binding, Gives switch (some value) binding ∧ Distinct (bindings ++ [binding]) ∧
            settled = after (bindings ++ [binding]) none :=
      finish_eq_ok_iff distinct (.inl takes) acts
    rw [readAll_cons, given]
    refine (settles options).trans ?_
    constructor
    · rintro ⟨settled, finished, reads⟩
      obtain ⟨binding, gives, new, rfl⟩ := (finishes settled).mp finished
      exact ⟨value, rest, binding, rfl, alone, gives, new, reads⟩
    · rintro ⟨_, _, binding, ⟨⟩, _, gives, new, reads⟩
      exact ⟨_, (finishes _).mpr ⟨binding, gives, new, rfl⟩, reads⟩
  · refine iff_of_false (fun succeeds => ?_) ?_
    · have settles : SettlesFirst (readAll · words) (after bindings (some switch)) := by
        refine settlesFirst_readAll rfl fun value next alone => ?_
        obtain ⟨rest, rfl⟩ := List.head?_eq_some_iff.mp next
        exact absurd ⟨value, rest, rfl, alone⟩ answered
      obtain ⟨settled, settles, _⟩ := (settles options).mp succeeds
      have finished : finish (after bindings none) switch none = .ok settled := settles
      obtain ⟨_, gives, _⟩ := (finish_eq_ok_iff distinct (.inl takes) acts).mp finished
      cases gives <;> cases takes
    · rintro ⟨value, rest, _, rfl, alone, _⟩
      exact answered ⟨value, rest, rfl, alone⟩

/-- Whatever the rest of a line spells is read, if nothing is bound twice. -/
theorem readAll_of_restOfLine (rest : RestOfLine words more)
    (distinct : Distinct (bindings ++ more)) :
    (after bindings none).readAll words = .ok (.ofBindings (bindings ++ more)) := by
  induction rest generalizing bindings with
  | none =>
    rw [List.append_nil]
    rfl
  | dashes =>
    rw [readAll_dashes_eq_ok_iff (by rfl), List.append_nil]
    exact ⟨rfl, rfl⟩
  | single spelled rest inductionHypothesis =>
    rw [← List.append_assoc] at distinct ⊢
    have first := distinct.of_append
    refine readAll_cons_eq_ok_iff.mpr ⟨_, ?_, inductionHypothesis distinct⟩
    rw [readWord_after_eq_ok_iff first.of_append spelled.not_standsAlone spelled.ne_dashes]
    exact ⟨_, none, spelled, first, rfl⟩
  | pair spelled alone gives rest inductionHypothesis =>
    rw [← List.append_assoc, ← List.append_assoc] at distinct ⊢
    have first := distinct.of_append
    have opened := first.of_append
    refine readAll_cons_eq_ok_iff.mpr ⟨_, (readWord_after_eq_ok_iff opened.of_append
      spelled.not_standsAlone spelled.ne_dashes).mpr ⟨_, _, spelled, opened, rfl⟩, ?_⟩
    rw [readAll_after_some_eq_ok_iff opened spelled.takesValue]
    exact ⟨_, _, _, rfl, alone, gives, first, inductionHypothesis distinct⟩

/-- Whatever is read between two options up to the end is spelled by the rest of the line. -/
theorem restOfLine_of_readAll (words : List Bytes) (bindings : List Binding)
    (distinct : Distinct bindings)
    (reads : (after bindings none).readAll words = .ok options) :
    ∃ more, RestOfLine words more ∧ Distinct (bindings ++ more) ∧
      options = .ofBindings (bindings ++ more) := by
  match words with
  | [] =>
    cases reads
    exact ⟨[], .none, by rwa [List.append_nil], by rw [List.append_nil]; rfl⟩
  | word :: words =>
    by_cases closes : word = [dash, dash]
    · subst closes
      obtain ⟨rfl, ends⟩ := (readAll_dashes_eq_ok_iff (by rfl)).mp reads
      cases ends
      exact ⟨[], .dashes, by rwa [List.append_nil], by rw [List.append_nil]; rfl⟩
    obtain ⟨next, read, reads⟩ := readAll_cons_eq_ok_iff.mp reads
    by_cases alone : StandsAlone word
    · rw [readWord_of_standsAlone (by rfl) alone] at read
      exact absurd read (readPlain_ne_ok (by simp [after]) next)
    obtain ⟨first, waits, spelled, new, rfl⟩ :=
      (readWord_after_eq_ok_iff distinct alone closes).mp read
    cases waits with
    | none =>
      obtain ⟨later, rest, newLater, rfl⟩ := restOfLine_of_readAll words _ new reads
      rw [List.append_assoc] at newLater ⊢
      exact ⟨_, .single spelled rest, newLater, rfl⟩
    | some switch =>
      obtain ⟨value, left, binding, rfl, stands, gives, newBinding, reads⟩ :=
        (readAll_after_some_eq_ok_iff new spelled.takesValue).mp reads
      obtain ⟨later, rest, newLater, rfl⟩ := restOfLine_of_readAll left _ newBinding reads
      rw [List.append_assoc, List.append_assoc, ← List.append_assoc first] at newLater ⊢
      exact ⟨_, .pair spelled stands gives rest, newLater, rfl⟩

end Reader

/-- Command lines are read exactly if the grammar has them, to the options that they ask for. -/
theorem read_eq_ok_iff : read words = .ok options ↔ Asks words options := by
  show (Reader.after [] none).readAll words = .ok options ↔ Asks words options
  constructor
  · intro reads
    obtain ⟨bindings, rest, distinct, rfl⟩ :=
      Reader.restOfLine_of_readAll words [] List.nodup_nil reads
    exact ⟨bindings, line_iff.mpr ⟨rest, distinct⟩, rfl⟩
  · rintro ⟨bindings, line, rfl⟩
    obtain ⟨rest, distinct⟩ := line_iff.mp line
    exact Reader.readAll_of_restOfLine rest distinct

end ShellSmoke.CommandLine
