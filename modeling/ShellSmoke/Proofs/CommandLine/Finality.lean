/-
This file proves which decisions about a command line are final. Whatever stops a reader at a word
is final, since no later word is looked at. What is wrong with an option that is still open shows
only when the option is finished, which can be at the end of the line; but finishing an option finds
values missing, impossible or given twice, and nothing else. So a stop of any other kind came from a
word, and stays whatever follows; and after an accepted line help and version act at once, while an
option that waits for its value has decided nothing.
-/

import Mathlib.Data.List.TakeWhile
import ShellSmoke.Proofs.CommandLine.Lines

namespace ShellSmoke.CommandLine

variable {switch : Switch} {word : Bytes} {words : List Bytes} {reader next : Reader}
  {options : Options} {stop : Stop}

/-- Whether a command line is stopped by a stop of a kind, and with which status. -/
def StopsWith (words : List Bytes) (kind : Stop.Kind) (status : Nat) : Prop :=
  ∃ stop, read words = .error stop ∧ stop.kind = kind ∧ stop.exitCode = status

namespace Reader

/-! ### What finishing can find -/

/-- Whether a refusal is one of those with which options are finished. -/
def IsLate (refusal : Refusal) : Prop :=
  refusal.kind = .invalidValue ∨ refusal.kind = .argumentConflict

theorem isLate_of_readScore {value : Bytes} {refusal : Refusal}
    (fails : readScore value = .error refusal) : IsLate refusal := by
  unfold readScore at fails
  split at fails
  · cases fails
  · split at fails <;> cases fails <;> exact .inl rfl

theorem isLate_of_bind {value : Bytes} {refusal : Refusal}
    (fails : bind options switch value = .error refusal) : IsLate refusal := by
  cases switch with
  | executable | results =>
    rw [bind] at fails
    split at fails
    · cases fails
      exact .inl rfl
    · cases fails
  | max =>
    cases scored : readScore value with
    | error other =>
      rw [bind, scored] at fails
      cases fails
      exact isLate_of_readScore scored
    | ok score =>
      rw [bind, scored] at fails
      cases fails
  | withoutChecks | dryRun | help | version => cases fails

theorem isLate_of_finish {value : Option Bytes} {refusal : Refusal}
    (fails : reader.finish switch value = .error refusal) : IsLate refusal := by
  unfold finish at fails
  split at fails
  · cases fails
    exact .inl rfl
  split at fails
  · cases fails
    exact .inr rfl
  cases bound : bind reader.options switch (value.getD []) with
  | error other =>
    rw [bound] at fails
    cases fails
    exact isLate_of_bind bound
  | ok options =>
    rw [bound] at fails
    cases fails

theorem isLate_of_settle {refusal : Refusal} (fails : reader.settle = .error refusal) :
    IsLate refusal := by
  unfold settle at fails
  split at fails
  · cases fails
  · exact isLate_of_finish fails

/-! ### Words after words -/

theorem readAll_append (first rest : List Bytes) :
    reader.readAll (first ++ rest) =
      first.foldlM readWord reader >>= fun next => next.readAll rest := by
  unfold readAll
  rw [List.foldlM_append, bind_assoc]

/-- A line stops at a word, or at its end with what finishing the open option finds. -/
theorem foldlM_eq_error_or_isLate (stops : reader.readAll words = .error stop) :
    words.foldlM readWord reader = .error stop ∨
      ∃ refusal, stop = .refused refusal ∧ IsLate refusal := by
  unfold readAll at stops
  cases read : words.foldlM readWord reader with
  | error other =>
    rw [read] at stops
    cases stops
    exact .inl rfl
  | ok last =>
    rw [read] at stops
    change (last.settle.mapError Stop.refused >>= fun settled => .ok settled.options) = _ at stops
    cases settles : last.settle with
    | error refusal =>
      rw [settles] at stops
      cases stops
      exact .inr ⟨refusal, rfl, isLate_of_settle settles⟩
    | ok settled =>
      rw [settles] at stops
      cases stops

/-- A stop that finishing an option cannot bring about stays, whatever words follow. -/
theorem readAll_append_eq_error (stops : reader.readAll words = .error stop)
    (final : stop.kind ≠ .invalidValue ∧ stop.kind ≠ .argumentConflict) (more : List Bytes) :
    reader.readAll (words ++ more) = .error stop := by
  rw [readAll_append]
  rcases foldlM_eq_error_or_isLate stops with stopped | ⟨refusal, rfl, late | late⟩
  · rw [stopped]
    rfl
  · exact absurd late final.1
  · exact absurd late final.2

/-! ### Options do not end -/

theorem ended_finish {value : Option Bytes} (finishes : reader.finish switch value = .ok next) :
    next.ended = reader.ended := by
  unfold finish at finishes
  split at finishes
  · cases finishes
  split at finishes
  · cases finishes
  cases bound : bind reader.options switch (value.getD []) with
  | error refusal =>
    rw [bound] at finishes
    cases finishes
  | ok options =>
    rw [bound] at finishes
    cases finishes
    rfl

theorem mapError_eq_ok {tried : Except Refusal Reader}
    (succeeds : tried.mapError Stop.refused = .ok next) : tried = .ok next := by
  cases tried with
  | error refusal => cases succeeds
  | ok reader =>
    cases succeeds
    rfl

theorem ended_recognise (recognises : reader.recognise switch = .ok next) :
    next.ended = reader.ended := by
  obtain ⟨settled, settles, recognises⟩ := bind_eq_ok.mp recognises
  rw [← ended_of_settle (mapError_eq_ok settles)]
  cases switch with
  | executable | results | max =>
    cases recognises
    rfl
  | withoutChecks | dryRun => exact ended_finish (mapError_eq_ok recognises)
  | help | version => cases recognises

theorem ended_recogniseAttached {value : Bytes}
    (recognises : reader.recogniseAttached switch value = .ok next) :
    next.ended = reader.ended := by
  obtain ⟨settled, settles, finishes⟩ := bind_eq_ok.mp (mapError_eq_ok recognises)
  rw [← ended_of_settle settles, ended_finish finishes]

theorem ended_readLetters {letters : Bytes} (reads : reader.readLetters letters = .ok next) :
    next.ended = reader.ended := by
  induction letters generalizing reader with
  | nil =>
    cases reads
    rfl
  | cons byte rest inductionHypothesis =>
    rw [readLetters] at reads
    split at reads
    · cases reads
    split at reads
    · exact ended_recogniseAttached reads
    · obtain ⟨between, recognises, reads⟩ := bind_eq_ok.mp reads
      rw [inductionHypothesis reads, ended_recognise recognises]

theorem ended_readLong {body : Bytes} (reads : reader.readLong body = .ok next) :
    next.ended = reader.ended := by
  unfold readLong at reads
  dsimp only at reads
  split at reads
  · exact ended_recognise reads
  · split at reads
    · exact ended_recogniseAttached reads
    · cases reads
  · cases reads

theorem ended_readPlain (reads : reader.readPlain word = .ok next) :
    next.ended = reader.ended := by
  unfold readPlain at reads
  split at reads <;> cases reads
  rfl

/-- Only two dashes end the options. -/
theorem ended_readWord (other : word ≠ [dash, dash]) (reads : reader.readWord word = .ok next) :
    next.ended = false := by
  cases goesOn : reader.ended with
  | true =>
    unfold readWord at reads
    rw [if_pos goesOn] at reads
    cases reads
  | false =>
    rw [← goesOn]
    rcases word_cases word with alone | rfl | ⟨letters, rfl, given, letter⟩ | ⟨body, rfl, given⟩
    · rw [readWord_of_standsAlone goesOn alone] at reads
      exact ended_readPlain reads
    · exact absurd rfl other
    · rw [readWord_short goesOn given letter] at reads
      exact ended_readLetters reads
    · rw [readWord_long goesOn given] at reads
      exact ended_readLong reads

/-! ### After an accepted line -/

/-- An accepted line that two dashes do not end leaves a reader that goes on, and whose open option
can be finished. -/
theorem exists_of_read (accepted : read words = .ok options)
    (last : words.getLast? ≠ some [dash, dash]) :
    ∃ reached settled : Reader, words.foldlM readWord start = .ok reached ∧
      reached.ended = false ∧ reached.settle = .ok settled := by
  obtain ⟨reached, reads, finishes⟩ := bind_eq_ok.mp accepted
  obtain ⟨settled, settles, _⟩ := bind_eq_ok.mp finishes
  refine ⟨reached, settled, reads, ?_, mapError_eq_ok settles⟩
  -- Once options have ended no word is accepted, so only the last word can have ended them.
  rcases List.eq_nil_or_concat' words with rfl | ⟨front, word, rfl⟩
  · cases reads
    rfl
  · rw [List.foldlM_append] at reads
    obtain ⟨between, _, reads⟩ := bind_eq_ok.mp reads
    rw [List.getLast?_concat] at last
    rw [List.foldlM_cons, bind_eq_ok] at reads
    obtain ⟨_, reads, ⟨⟩⟩ := reads
    exact ended_readWord (fun same => last (congrArg some same)) reads

/-- A word by which an option is recognised, without a value for it. -/
inductive Spells : Bytes → Switch → Prop where
  | letter {byte : UInt8} {switch : Switch} (other : byte ≠ dash)
      (found : Switch.ofLetter? (Char.ofUInt8 byte) = some switch) : Spells [dash, byte] switch
  | name {name : Bytes} {switch : Switch} (plain : '='.toUInt8 ∉ name) (given : name ≠ [])
      (found : Switch.ofName? name = some switch) : Spells (dash :: dash :: name) switch

theorem spells_letter {char : Char} (switch : Switch) (letter : switch.letter? = some char) :
    Spells [dash, char.toUInt8] switch := by
  cases switch <;> cases letter <;> exact .letter (by decide) (by decide)

theorem spells_name {name : String} (switch : Switch) (named : switch.name? = some name) :
    Spells (dash :: dash :: Bytes.ofString name) switch := by
  cases switch <;> cases named <;> exact .name (by decide) (by decide) (by decide)

theorem readWord_of_spells (goesOn : reader.ended = false) (spells : Spells word switch) :
    reader.readWord word = reader.recognise switch := by
  cases spells with
  | letter other found =>
    rw [readWord_short goesOn (List.cons_ne_nil _ _) (by simpa using other), readLetters, found]
    dsimp only
    rw [if_neg (by simp)]
    cases reader.recognise switch <;> rfl
  | @name name _ plain given found =>
    have whole : ∀ byte ∈ name, decide (byte ≠ '='.toUInt8) = true := by
      intro byte member
      exact decide_eq_true fun same => plain (same ▸ member)
    rw [readWord_long goesOn given, readLong, List.takeWhile_eq_self_iff.mpr whole,
      List.dropWhile_eq_nil_iff.mpr whole, found]
    rfl

/-- After an accepted line a word that spells an option is recognised as that. -/
theorem read_append_of_spells (accepted : read words = .ok options)
    (last : words.getLast? ≠ some [dash, dash]) (spells : Spells word switch)
    (more : List Bytes) :
    ∃ reached settled : Reader, reached.ended = false ∧ reached.settle = .ok settled ∧
      read (words ++ word :: more) =
        reached.recognise switch >>= fun next => next.readAll more := by
  obtain ⟨reached, settled, reads, goesOn, settles⟩ := exists_of_read accepted last
  refine ⟨reached, settled, goesOn, settles, ?_⟩
  show start.readAll (words ++ word :: more) = _
  rw [readAll_append, reads, ← readWord_of_spells goesOn spells]
  exact readAll_cons

theorem recognise_of_settle {settled : Reader} (settles : reader.settle = .ok settled)
    (takes : switch.takesValue = true) :
    reader.recognise switch = .ok { settled with pending := some ⟨switch, none⟩ } := by
  unfold recognise
  rw [settles]
  cases switch <;> cases takes <;> rfl

end Reader

open Reader

/-- Whether a word looks like a long option and is none: what stands between its two dashes and an
equals sign, or the end, is no name of an option. -/
def IsUnknownLong (word : Bytes) : Prop :=
  ∃ body, word = dash :: dash :: body ∧ body ≠ [] ∧
    ∀ switch name, Switch.name? switch = some name →
      body.takeWhile (· ≠ '='.toUInt8) ≠ Bytes.ofString name

theorem readWord_of_isUnknownLong (goesOn : reader.ended = false) (unknown : IsUnknownLong word) :
    ∃ stop, reader.readWord word = .error stop ∧ stop.kind = .unknownArgument ∧
      stop.exitCode = 2 := by
  obtain ⟨body, rfl, given, unnamed⟩ := unknown
  have notFound : Switch.ofName? (body.takeWhile (· ≠ '='.toUInt8)) = none := by
    rw [Option.eq_none_iff_forall_ne_some]
    intro switch found
    obtain ⟨name, named, same⟩ := ofName?_eq_some_iff.mp found
    exact unnamed switch name named same
  rw [readWord_long goesOn given, readLong, notFound]
  exact ⟨_, rfl, rfl, rfl⟩

/-- Help and version act at once after an accepted line. -/
theorem stopsWith_of_acts (stop : Stop) (accepted : read words = .ok options)
    (last : words.getLast? ≠ some [dash, dash]) (spells : Spells word switch)
    (acts : ∀ reader : Reader, reader.recognise switch =
      reader.settle.mapError .refused >>= fun _ => .error stop) (more : List Bytes) :
    StopsWith (words ++ [word] ++ more) stop.kind stop.exitCode := by
  obtain ⟨reached, settled, _, settles, reads⟩ := read_append_of_spells accepted last spells more
  rw [List.append_assoc, List.singleton_append]
  refine ⟨stop, ?_, rfl, rfl⟩
  rw [reads, acts, settles]
  rfl

/-- An option that waits for its value decides nothing after an accepted line: at the end of the
line the value is missing, but a long option that is none comes first. -/
theorem stopsWith_of_waits (accepted : read words = .ok options)
    (last : words.getLast? ≠ some [dash, dash]) (spells : Spells word switch)
    (takes : switch.takesValue = true) :
    StopsWith (words ++ [word]) .invalidValue 2 ∧
      ∀ unknown, IsUnknownLong unknown →
        StopsWith (words ++ [word, unknown]) .unknownArgument 2 := by
  have waits (more : List Bytes) : ∃ waiting : Reader, waiting.ended = false ∧
      waiting.pending = some ⟨switch, none⟩ ∧
      read (words ++ word :: more) = waiting.readAll more := by
    obtain ⟨reached, settled, goesOn, settles, reads⟩ :=
      read_append_of_spells accepted last spells more
    rw [recognise_of_settle settles takes] at reads
    exact ⟨{ settled with pending := some ⟨switch, none⟩ },
      (ended_of_settle settles).trans goesOn, rfl, reads⟩
  refine ⟨?_, fun unknown isUnknown => ?_⟩
  · obtain ⟨waiting, _, pending, reads⟩ := waits []
    have missing : waiting.settle = .error (.missingValue switch) := by
      rw [settle, pending]
      exact if_pos ⟨takes, rfl⟩
    refine ⟨.refused (.missingValue switch), ?_, rfl, rfl⟩
    rw [reads]
    show waiting.settle.mapError Stop.refused >>= _ = _
    rw [missing]
    rfl
  · obtain ⟨waiting, goesOn, _, reads⟩ := waits [unknown]
    obtain ⟨stop, stops, kind, status⟩ := readWord_of_isUnknownLong goesOn isUnknown
    refine ⟨stop, ?_, kind, status⟩
    rw [reads, readAll_cons, stops]
    rfl

/-- A command line that stops with a word that is no option and no value, with a value that an
option does not take, or with help or version, stops so whatever words follow. After an accepted
line that two dashes do not end, help and version act whatever follows. An option that waits for
its value there has decided nothing, even if it was used before: at the end of the line its value is
missing, and before a long option that is none it is passed over. -/
theorem decisions_are_final :
    (∀ words more kind status,
      kind ∈ [.unknownArgument, .tooManyValues, .displayHelp, .displayVersion] →
      StopsWith words kind status → StopsWith (words ++ more) kind status) ∧
    ∀ words options, read words = .ok options →
      words.getLast? ≠ some (Bytes.ofString "--") →
      (∀ more, StopsWith (words ++ [Bytes.ofString "-h"] ++ more) .displayHelp 0 ∧
        StopsWith (words ++ [Bytes.ofString "--help"] ++ more) .displayHelp 0 ∧
        StopsWith (words ++ [Bytes.ofString "-V"] ++ more) .displayVersion 0 ∧
        StopsWith (words ++ [Bytes.ofString "--version"] ++ more) .displayVersion 0) ∧
      ∀ word ∈ [Bytes.ofString "-e", Bytes.ofString "-r", Bytes.ofString "--max"],
        StopsWith (words ++ [word]) .invalidValue 2 ∧
          ∀ unknown, IsUnknownLong unknown →
            StopsWith (words ++ [word, unknown]) .unknownArgument 2 := by
  refine ⟨?_, fun words options accepted last => ⟨fun more => ⟨?_, ?_, ?_, ?_⟩, ?_⟩⟩
  · rintro words more kind status final ⟨stop, stops, rfl, rfl⟩
    have notLate : stop.kind ≠ .invalidValue ∧ stop.kind ≠ .argumentConflict := by
      constructor <;> intro late <;> rw [late] at final <;> revert final <;> decide
    exact ⟨stop, readAll_append_eq_error stops notLate more, rfl, rfl⟩
  · exact stopsWith_of_acts .help accepted last (spells_letter .help rfl) (fun _ => rfl) more
  · exact stopsWith_of_acts .help accepted last (spells_name .help rfl) (fun _ => rfl) more
  · exact stopsWith_of_acts .version accepted last (spells_letter .version rfl) (fun _ => rfl) more
  · exact stopsWith_of_acts .version accepted last (spells_name .version rfl) (fun _ => rfl) more
  · intro word among
    simp only [List.mem_cons, List.not_mem_nil, or_false] at among
    rcases among with rfl | rfl | rfl
    · exact stopsWith_of_waits accepted last (spells_letter .executable rfl) rfl
    · exact stopsWith_of_waits accepted last (spells_letter .results rfl) rfl
    · exact stopsWith_of_waits accepted last (spells_name .max rfl) rfl

/-- A line that is accepted. -/
def acceptedLine : List Bytes := ["-e", "sh"].map Bytes.ofString

/-- The long option that is none outranks the second use of a path before it, and stays in front of
a help after it; help acts before words that nothing can be made of. -/
theorem decisions_are_final_reused :
    read acceptedLine = .ok { Options.standard with executable := Bytes.ofString "sh" } ∧
      acceptedLine.getLast? ≠ some (Bytes.ofString "--") ∧
      StopsWith (acceptedLine ++ [Bytes.ofString "-h"] ++ [Bytes.ofString "--", [0xFF]])
        .displayHelp 0 ∧
      StopsWith (acceptedLine ++ [Bytes.ofString "-e"]) .invalidValue 2 ∧
      IsUnknownLong (Bytes.ofString "--dry=run") ∧
      StopsWith (acceptedLine ++ [Bytes.ofString "-e", Bytes.ofString "--dry=run"])
        .unknownArgument 2 ∧
      StopsWith (acceptedLine ++ [Bytes.ofString "-e", Bytes.ofString "--dry=run"] ++
        [Bytes.ofString "-h"]) .unknownArgument 2 := by
  have accepted : read acceptedLine =
      .ok { Options.standard with executable := Bytes.ofString "sh" } := by rfl
  have last : acceptedLine.getLast? ≠ some (Bytes.ofString "--") := by decide
  have unknown : IsUnknownLong (Bytes.ofString "--dry=run") := by
    refine ⟨Bytes.ofString "dry=run", by decide, by decide, fun switch name named => ?_⟩
    cases switch <;> cases named <;> decide
  obtain ⟨acts, waits⟩ := decisions_are_final.2 _ _ accepted last
  obtain ⟨missing, passedOver⟩ := waits (Bytes.ofString "-e") List.mem_cons_self
  exact ⟨accepted, last, (acts _).1, missing, unknown, passedOver _ unknown,
    decisions_are_final.1 _ _ _ _ (by decide) (passedOver _ unknown)⟩

end ShellSmoke.CommandLine
