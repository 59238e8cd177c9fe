/-
This file follows the readers of commands over a line that holds one simple command: a name and
arguments with a blank before each. Nothing that could stand there instead is found, neither a
reserved word nor an alias nor an operator, so each word is read in turn and the newline ends the
command.
-/

import ShellSmoke.Proofs.Shell.Quoting

namespace ShellSmoke.Shell

variable {cursor : Cursor} {char stop : Char} {rest : Octets}

/-! ### At a character -/

/-- Whether a character is neither a blank nor a mark of comments, and stands for itself. -/
structure IsSolid (char : Char) : Prop where
  plain : IsPlain char
  noBlank : char ≠ ' ' ∧ char ≠ '\t'
  noComment : char ≠ '#'

instance (char : Char) : Decidable (IsSolid char) :=
  decidable_of_iff (IsPlain char ∧ (char ≠ ' ' ∧ char ≠ '\t') ∧ char ≠ '#')
    ⟨fun ⟨plain, noBlank, noComment⟩ => ⟨plain, noBlank, noComment⟩,
      fun solid => ⟨solid.plain, solid.noBlank, solid.noComment⟩⟩

/-- Blanks before such a character are gone past. -/
theorem skipBlanks_of_faces {gap : Octets} (faces : cursor.Faces gap char rest)
    (blank : ∀ char ∈ gap, char = ' ' ∨ char = '\t') (solid : IsSolid char)
    (short : gap.length < Reader.stepLimit) :
    skipBlanks cursor = .ok ((), cursor.past gap (char :: rest)) := by
  have taken := Reader.takeWhile_of_faces (fun char => char = ' ' ∨ char = '\t') faces
    (fun char mem => by rcases blank char mem with rfl | rfl <;> decide) solid.plain
    (by simpa using solid.noBlank) short
  rw [skipBlanks, Reader.bind_of_ok taken,
    Reader.bind_of_ok (Reader.peek_of_shows faces.shows_past solid.plain),
    if_neg (by simpa using solid.noComment), Reader.pure_apply]

theorem skipBlanks_of_shows (shows : cursor.Shows char rest) (solid : IsSolid char) :
    skipBlanks cursor = .ok ((), cursor) := by
  have faces : cursor.Faces [] char rest := ⟨shows.rest_eq, shows.outside⟩
  have skipped := skipBlanks_of_faces faces (List.forall_mem_nil _) solid (by decide)
  rwa [faces.past_eq] at skipped

/-- Whether a character begins no redirection. -/
structure IsNoRedirection (char : Char) : Prop where
  plain : IsPlain char
  noDigit : char.isDigit = false
  noSign : char ≠ '<' ∧ char ≠ '>'

theorem redirectionIsNext_of_shows (shows : cursor.Shows char rest)
    (other : IsNoRedirection char) : redirectionIsNext cursor = .ok (false, cursor) := by
  refine Reader.ahead_of_ok (show _ = Except.ok (false, cursor) from ?_)
  rw [Reader.bind_of_ok (Reader.takeWhile_of_shows Char.isDigit shows other.plain other.noDigit),
    Reader.bind_of_ok (Reader.peek_of_shows shows other.plain)]
  simp [other.noSign]

theorem redirection?_of_shows (nested : Nested) (shows : cursor.Shows char rest)
    (other : IsNoRedirection char) : redirection? nested cursor = .ok (none, cursor) := by
  rw [redirection?, Reader.bind_get,
    Reader.bind_of_ok (Reader.takeWhile_of_shows Char.isDigit shows other.plain other.noDigit)]
  simp only [List.length_nil, Nat.not_lt_zero, if_false]
  rw [Reader.bind_of_ok (Reader.peek_of_shows shows other.plain)]
  have noSign := other.noSign
  simp [noSign.1, noSign.2]

theorem wordIsNext_of_shows (shows : cursor.Shows char rest) (other : IsNoRedirection char) :
    wordIsNext cursor = .ok (! isMeta char, cursor) := by
  rw [wordIsNext, Reader.bind_of_ok (Reader.peek_of_shows shows other.plain)]
  simp only
  rw [Reader.bind_of_ok (redirectionIsNext_of_shows shows other)]
  simp

/-! ### At a name -/

/-- Whether a text can be the name of a command that is read as it stands: it is no reserved word,
and of characters that names of variables have. -/
structure IsCommandName (name : Octets) : Prop where
  isName : Octets.isName name = true
  unreserved : String.ofList name ∉ reservedWords

theorem ne_of_inName {other : Char} (inName : Octets.inName char = true)
    (outside : Octets.inName other = false) : char ≠ other := by
  rintro rfl
  rw [outside] at inName
  cases inName

theorem toNat_of_isAlpha (alpha : char.isAlpha = true) :
    'A'.toNat ≤ char.toNat ∧ char.toNat ≤ 'z'.toNat := by
  rcases Bool.or_eq_true_iff.mp alpha with upper | lower
  · have ⟨low, high⟩ := of_decide_eq_true upper
    exact ⟨low, Nat.le_trans high (by decide : 'Z'.toNat ≤ 'z'.toNat)⟩
  · have ⟨low, high⟩ := Bool.and_eq_true_iff.mp lower
    exact ⟨Nat.le_trans (by decide) (of_decide_eq_true low), of_decide_eq_true high⟩

theorem toNat_of_isDigit (digit : char.isDigit = true) :
    '0'.toNat ≤ char.toNat ∧ char.toNat ≤ '9'.toNat := by
  have ⟨low, high⟩ := Bool.and_eq_true_iff.mp digit
  exact ⟨of_decide_eq_true low, of_decide_eq_true high⟩

theorem toNat_lt_of_inName (inName : Octets.inName char = true) : char.toNat < 128 := by
  rcases Bool.or_eq_true_iff.mp inName with alphanum | underscore
  · rcases Bool.or_eq_true_iff.mp alphanum with alpha | digit
    · exact Nat.lt_of_le_of_lt (toNat_of_isAlpha alpha).2 (by decide)
    · exact Nat.lt_of_le_of_lt (toNat_of_isDigit digit).2 (by decide)
  · rw [of_decide_eq_true underscore]
    decide

theorem isPlain_of_inName (inName : Octets.inName char = true) : IsPlain char := by
  have few := toNat_lt_of_inName inName
  refine ⟨?_, ne_of_inName inName (by decide)⟩
  simp only [isAliasEnd, decide_eq_false_iff_not]
  omega

theorem isMeta_of_inName (inName : Octets.inName char = true) : isMeta char = false := by
  rw [isMeta, List.contains_eq_mem, decide_eq_false_iff_not]
  intro mem
  have outside : [' ', '\t', '\n', ';', '&', '|', '<', '>', '(', ')'].all
      (fun other => ! Octets.inName other) = true := rfl
  have notIn := List.all_eq_true.mp outside char mem
  rw [inName] at notIn
  cases notIn

theorem inName_of_isMeta (ends : isMeta char = true) : Octets.inName char = false := by
  by_contra inName
  rw [isMeta_of_inName (by simpa using inName)] at ends
  cases ends

theorem inName_of_beginsName (begins : Octets.beginsName char = true) :
    Octets.inName char = true := by
  rcases Bool.or_eq_true_iff.mp begins with alpha | underscore
  · exact Bool.or_eq_true_iff.mpr (.inl (Bool.or_eq_true_iff.mpr (.inl alpha)))
  · exact Bool.or_eq_true_iff.mpr (.inr underscore)

theorem isDigit_of_beginsName (begins : Octets.beginsName char = true) : char.isDigit = false := by
  rw [Bool.eq_false_iff]
  intro digit
  have high := (toNat_of_isDigit digit).2
  rcases Bool.or_eq_true_iff.mp begins with alpha | underscore
  · exact absurd (Nat.le_trans (toNat_of_isAlpha alpha).1 high) (by decide)
  · rw [of_decide_eq_true underscore] at high
    exact absurd high (by decide)

theorem IsCommandName.inName {name : Octets} (isCommandName : IsCommandName name) :
    ∀ char ∈ name, Octets.inName char = true := by
  have isName := isCommandName.isName
  cases name with
  | nil => cases isName
  | cons first more =>
    obtain ⟨begins, others⟩ := Bool.and_eq_true_iff.mp isName
    exact List.forall_mem_cons.mpr ⟨inName_of_beginsName begins, List.all_eq_true.mp others⟩

/-- Whether the name of a command is next, before a character that ends words. -/
structure Cursor.IsAtName (cursor : Cursor) (name : Octets) (stop : Char) (rest : Octets) : Prop
    extends cursor.Faces name stop rest where
  isName : IsCommandName name
  plain : IsPlain stop
  ends : isMeta stop = true
  short : name.length < Reader.stepLimit
  spared : cursor.spared = none

namespace Cursor.IsAtName

variable {name : Octets} {nested : Nested}

theorem inName (atName : cursor.IsAtName name stop rest) :
    ∀ char ∈ name, Octets.inName char = true := atName.isName.inName

theorem exists_shows (atName : cursor.IsAtName name stop rest) :
    ∃ first more, cursor.Shows first more ∧ IsSolid first ∧ IsNoRedirection first ∧
      isMeta first = false := by
  have isName := atName.isName.isName
  cases name with
  | nil => cases isName
  | cons first more =>
    have begins := (Bool.and_eq_true_iff.mp isName).1
    have inName := inName_of_beginsName begins
    have plain := isPlain_of_inName inName
    refine ⟨first, _, atName.toFaces.shows, ⟨plain, ⟨?_, ?_⟩, ?_⟩,
      ⟨plain, isDigit_of_beginsName begins, ?_, ?_⟩, isMeta_of_inName inName⟩
    all_goals exact ne_of_inName inName (by decide)

theorem nextWord_eq (atName : cursor.IsAtName name stop rest) :
    nextWord cursor = .ok (name, cursor) := by
  rw [nextWord, Reader.bind_get, atName.spared]
  refine Reader.ahead_of_ok (Reader.takeWhile_of_faces _ atName.toFaces (fun char mem => ?_)
    atName.plain (by simp [atName.ends]) atName.short)
  have inName := atName.inName char mem
  exact ⟨isPlain_of_inName inName, by rw [isMeta_of_inName inName]; rfl⟩

theorem reservedIsNext_eq (atName : cursor.IsAtName name stop rest) {word : String}
    (reserved : word ∈ reservedWords) : reservedIsNext word cursor = .ok (false, cursor) := by
  have differs : name ≠ word.toList := by
    rintro rfl
    exact atName.isName.unreserved (by rwa [String.ofList_toList])
  rw [reservedIsNext, Reader.bind_of_ok atName.nextWord_eq, Reader.pure_apply]
  simp [differs]

theorem acceptReserved_eq (atName : cursor.IsAtName name stop rest) {word : String}
    (reserved : word ∈ reservedWords) : acceptReserved word cursor = .ok (false, cursor) := by
  rw [acceptReserved, Reader.bind_of_ok (atName.reservedIsNext_eq reserved)]
  rfl

/-- No compound command begins with the name. -/
theorem compound?_eq (atName : cursor.IsAtName name stop rest) :
    compound? nested cursor = .ok (none, cursor) := by
  obtain ⟨first, more, shows, solid, -, noMeta⟩ := atName.exists_shows
  have noParenthesis : first ≠ '(' := by
    rintro rfl
    cases noMeta
  have skips {β : Type} {word : String} (reserved : word ∈ reservedWords)
      (more : Bool → Reader β) : (acceptReserved word >>= more) cursor = more false cursor :=
    Reader.bind_of_ok (atName.acceptReserved_eq reserved) more
  rw [compound?, Reader.bind_of_ok (Reader.accept_of_ne shows solid.plain rfl noParenthesis)]
  simp (disch := decide) only [skips, Bool.false_eq_true, if_false, Reader.pure_apply]

/-- The name ends no list of commands, and joins none. -/
theorem noEnd_eq (atName : cursor.IsAtName name stop rest) :
    (listEnds <||> reservedIsNext "in" <||> reservedIsNext "!") cursor = .ok (false, cursor) := by
  obtain ⟨first, more, shows, solid, -, noMeta⟩ := atName.exists_shows
  have open_eq : listEnds cursor = .ok (false, cursor) := by
    have noParenthesis : first ≠ ')' := by rintro rfl; cases noMeta
    have noSemicolon : first ≠ ';' := by rintro rfl; cases noMeta
    rw [listEnds, Reader.bind_of_ok (Reader.peek_of_shows shows solid.plain)]
    simp only
    rw [Reader.bind_of_ok atName.nextWord_eq, Reader.pure_apply, List.contains_eq_mem,
      decide_eq_false]
    have closing : closingWords ⊆ reservedWords := by decide
    exact fun mem => atName.isName.unreserved (closing mem)
  simp only [orM, toBool]
  rw [Reader.bind_of_ok open_eq]
  simp only
  rw [Reader.bind_of_ok (atName.reservedIsNext_eq (by decide))]
  exact atName.reservedIsNext_eq (by decide)

theorem spliceAlias_eq (atName : cursor.IsAtName name stop rest)
    (noAlias : cursor.aliases.lookup name = none) (reserving : Bool) :
    spliceAlias reserving cursor = .ok (false, cursor) := by
  have word : (cursor.rest.takeWhile fun char => ! isMeta char && ! isAliasEnd char) = name := by
    have stops : ¬(! isMeta stop && ! isAliasEnd stop) = true := by simp [atName.ends]
    rw [atName.rest_eq, List.takeWhile_append_of_pos, List.takeWhile_cons, if_neg stops,
      List.append_nil]
    intro char mem
    have inName := atName.inName char mem
    rw [isMeta_of_inName inName, (isPlain_of_inName inName).1]
    rfl
  rw [spliceAlias, Reader.bind_get]
  simp only [word, noAlias, ite_self]
  rfl

/-- The name is no assignment. -/
theorem assignedName?_eq (atName : cursor.IsAtName name stop rest) :
    assignedName? cursor = .ok (none, cursor) := by
  have taken := Reader.takeWhile_of_faces Octets.inName atName.toFaces
    (fun char mem => ⟨isPlain_of_inName (atName.inName char mem), atName.inName char mem⟩)
    atName.plain (inName_of_isMeta atName.ends) atName.short
  have noEquals : stop ≠ '=' := by
    rintro rfl
    cases atName.ends
  rw [assignedName?, Reader.bind_get, Reader.bind_of_ok taken, if_pos atName.isName.isName,
    Reader.bind_of_ok (Reader.accept_of_ne atName.toFaces.shows_past atName.plain rfl noEquals)]
  rfl

/-- The name is read as it stands. -/
theorem readText_eq (atName : cursor.IsAtName name stop rest) :
    readText nested .word cursor = .ok ([.plain name], cursor.past name (stop :: rest)) := by
  have leaves : ∀ char ∈ name, Setting.word.Leaves char := by
    intro char mem
    have inName := atName.inName char mem
    have noSign {other : Char} (outside : Octets.inName other = false) : char ≠ other :=
      ne_of_inName inName outside
    exact ⟨isPlain_of_inName inName, isMeta_of_inName inName, noSign (by decide),
      noSign (by decide), fun _ => noSign (by decide), fun _ => noSign (by decide), nofun⟩
  have read := readText_of_holds nested (Setting.holds_of_leaves leaves) atName.toFaces
    atName.plain atName.ends atName.short
  have nonempty : name ≠ [] := by
    rintro rfl
    cases atName.isName.isName
  rwa [plainWord, if_neg (by simpa using nonempty)] at read

end Cursor.IsAtName

/-! ### Words of a simple command -/

/-- A place is sought past what is skipped, if no alias stands there. -/
theorem seekWord_of_ok {skip : Reader Unit} {aliasing reserving : Bool} {after : Cursor}
    (skips : skip cursor = .ok ((), after)) (unrenewed : after.renewed = false)
    (noAlias : aliasing = true → spliceAlias reserving after = .ok (false, after)) :
    seekWord skip aliasing reserving cursor = .ok ((), after) := by
  refine Reader.iterate_of_step ?_
  have same : { after with renewed := false } = after := by
    rw [← unrenewed]
  rw [Reader.bind_of_ok skips, Reader.bind_get, Reader.bind_modify, same, unrenewed]
  cases aliasing with
  | true =>
    simp only [Bool.or_false, if_true]
    rw [Reader.bind_of_ok (noAlias rfl)]
    rfl
  | false => rfl

/-- An argument on a line: the blanks before it, its text, and the word that this is. -/
structure Argument where
  gap : Octets
  text : Octets
  word : Word

/-- What an argument takes up on its line. -/
def Argument.written (argument : Argument) : Octets := argument.gap ++ argument.text

/-- Whether an argument is read as such: its text begins like a word, and is read as its word. -/
structure Argument.IsSound (argument : Argument) : Prop where
  blank : ∀ char ∈ argument.gap, char = ' ' ∨ char = '\t'
  short : argument.gap.length < Reader.stepLimit
  begins : ∃ first more, argument.text = first :: more ∧ IsSolid first ∧ IsNoRedirection first ∧
    isMeta first = false
  reads : ReadsAs argument.text argument.word

/-- The draft of a simple command that has words. -/
def wordsDraft (line : Nat) (words : List Word) : SimpleDraft := ⟨some line, [], words, []⟩

/-- One more argument is read. -/
theorem simpleStep_of_argument {depth line : Nat} {words : List Word} {argument : Argument}
    (sound : argument.IsSound) (nonempty : words ≠ [])
    (faces : cursor.Faces argument.written stop rest) (unrenewed : cursor.renewed = false)
    (plain : IsPlain stop) (ends : isMeta stop = true) :
    simpleStep (nestedAt (depth + 1)) (wordsDraft line words) cursor =
      .ok (.inl (wordsDraft line (argument.word :: words)),
        cursor.past argument.written (stop :: rest)) := by
  obtain ⟨first, more, text_eq, solid, other, noMeta⟩ := sound.begins
  have gapFaces : cursor.Faces argument.gap first (more ++ stop :: rest) := by
    refine ⟨?_, faces.outside⟩
    rw [faces.rest_eq, Argument.written, text_eq, List.append_assoc]
    rfl
  have skips := skipBlanks_of_faces gapFaces sound.blank solid sound.short
  have shows := gapFaces.shows_past
  have textFaces : (cursor.past argument.gap (first :: (more ++ stop :: rest))).Faces
      argument.text stop rest := ⟨by rw [Cursor.rest_past, text_eq]; rfl, shows.outside⟩
  have sought : seekWord skipBlanks words.isEmpty true cursor =
      .ok ((), cursor.past argument.gap (first :: (more ++ stop :: rest))) :=
    seekWord_of_ok skips (by rw [Cursor.renewed_past, unrenewed])
      fun empty => absurd (List.isEmpty_iff.mp empty) nonempty
  rw [simpleStep]
  simp only [wordsDraft, List.isEmpty_nil, Bool.and_self]
  rw [Reader.bind_of_ok sought, Reader.bind_get,
    Reader.bind_of_ok (redirection?_of_shows _ shows other)]
  simp only
  rw [Reader.bind_of_ok (wordIsNext_of_shows shows other)]
  simp only [noMeta, List.isEmpty_iff, nonempty, Bool.not_false, if_true, if_false]
  rw [Reader.bind_of_ok (sound.reads depth _ stop rest textFaces plain ends)]
  simp only [false_and, if_false, Reader.bind_get, Reader.pure_apply, Option.some_or]
  rw [show first :: (more ++ stop :: rest) = argument.text ++ stop :: rest by rw [text_eq]; rfl,
    Cursor.past_append]
  rfl

/-- What follows a word on a line ends it. -/
theorem exists_stop {arguments : List Argument} (sound : ∀ argument ∈ arguments, argument.IsSound)
    (apart : ∀ argument ∈ arguments, argument.gap ≠ []) (rest : Octets) :
    ∃ stop more, arguments.flatMap Argument.written ++ '\n' :: rest = stop :: more ∧
      IsPlain stop ∧ isMeta stop = true := by
  cases arguments with
  | nil => exact ⟨'\n', rest, rfl, by decide, rfl⟩
  | cons argument arguments =>
    obtain ⟨stop, gap, gap_eq⟩ := List.exists_cons_of_ne_nil (apart argument List.mem_cons_self)
    refine ⟨stop, gap ++ argument.text ++ (arguments.flatMap Argument.written ++ '\n' :: rest),
      by simp [Argument.written, gap_eq], ?_⟩
    have blank := (sound argument List.mem_cons_self).blank stop
    rcases blank (by rw [gap_eq]; exact List.mem_cons_self) with rfl | rfl <;> decide

theorem length_le_written {arguments : List Argument}
    (sound : ∀ argument ∈ arguments, argument.IsSound) :
    arguments.length ≤ (arguments.flatMap Argument.written).length := by
  induction arguments with
  | nil => exact Nat.le_refl 0
  | cons argument arguments ih =>
    obtain ⟨isSound, others⟩ := List.forall_mem_cons.mp sound
    obtain ⟨first, more, text_eq, -⟩ := isSound.begins
    have later := ih others
    simp only [List.flatMap_cons, Argument.written, text_eq, List.length_append, List.length_cons]
    omega

/-- The arguments of a line are read one after another. -/
theorem steps_of_arguments (depth line : Nat) {words : List Word} {arguments : List Argument}
    (sound : ∀ argument ∈ arguments, argument.IsSound)
    (apart : ∀ argument ∈ arguments.tail, argument.gap ≠ []) (nonempty : words ≠ [])
    (faces : cursor.Faces (arguments.flatMap Argument.written) '\n' rest)
    (unrenewed : cursor.renewed = false) :
    Reader.Steps (simpleStep (nestedAt (depth + 1))) arguments.length
      (wordsDraft line words, cursor)
      (wordsDraft line ((arguments.map Argument.word).reverse ++ words),
        cursor.past (arguments.flatMap Argument.written) ('\n' :: rest)) := by
  induction arguments generalizing cursor words with
  | nil =>
    rw [List.flatMap_nil, faces.past_eq]
    exact .none _
  | cons argument arguments ih =>
    obtain ⟨isSound, others⟩ := List.forall_mem_cons.mp sound
    obtain ⟨stop, more, stop_eq, plain, ends⟩ := exists_stop others apart rest
    have argumentFaces : cursor.Faces argument.written stop more := by
      refine ⟨?_, faces.outside⟩
      rw [faces.rest_eq, List.flatMap_cons, List.append_assoc, stop_eq]
    refine .one (simpleStep_of_argument isSound nonempty argumentFaces unrenewed plain ends) ?_
    have later := ih others (fun argument mem => apart argument (List.mem_of_mem_tail mem))
      (List.cons_ne_nil argument.word words)
      ⟨(Cursor.rest_past cursor argument.written _).trans stop_eq.symm,
        argumentFaces.shows_past.outside⟩
      (by rw [Cursor.renewed_past, unrenewed])
    rw [← stop_eq, Cursor.past_append] at later
    rw [← stop_eq]
    simpa using later

/-- The name of a command is read, with the blanks after it. -/
theorem simpleStep_of_name (nested : Nested) {name gap more : Octets}
    (atName : cursor.IsAtName name stop more) (gap_eq : stop :: more = gap ++ char :: rest)
    (blank : ∀ char ∈ gap, char = ' ' ∨ char = '\t') (short : gap.length < Reader.stepLimit)
    (solid : IsSolid char) (noParenthesis : char ≠ '(') (unrenewed : cursor.renewed = false)
    (noAlias : cursor.aliases.lookup name = none) :
    simpleStep nested ⟨none, [], [], []⟩ cursor =
      .ok (.inl (wordsDraft cursor.line [[.plain name]]),
        cursor.past (name ++ gap) (char :: rest)) := by
  obtain ⟨first, others, shows, firstSolid, other, noMeta⟩ := atName.exists_shows
  have sought : seekWord skipBlanks true true cursor = .ok ((), cursor) :=
    seekWord_of_ok (skipBlanks_of_shows shows firstSolid) unrenewed
      fun _ => atName.spliceAlias_eq noAlias true
  have line_eq : (cursor.past name (stop :: more)).line = cursor.line := by
    have noNewline : name.count '\n' = 0 := by
      refine List.count_eq_zero.mpr fun mem => ?_
      exact ne_of_inName (atName.inName _ mem) (by decide) rfl
    rw [Cursor.line_past, noNewline, Nat.add_zero]
  have gapFaces : (cursor.past name (stop :: more)).Faces gap char rest :=
    ⟨(Cursor.rest_past _ _ _).trans gap_eq, atName.toFaces.shows_past.outside⟩
  rw [simpleStep]
  simp only [List.isEmpty_nil, Bool.and_self]
  rw [Reader.bind_of_ok sought, Reader.bind_get,
    Reader.bind_of_ok (redirection?_of_shows _ shows other)]
  simp only
  rw [Reader.bind_of_ok (wordIsNext_of_shows shows other)]
  simp only [noMeta, Bool.not_false, if_true]
  rw [Reader.bind_of_ok atName.assignedName?_eq]
  simp only
  rw [Reader.bind_of_ok atName.readText_eq]
  simp only [Reader.bind_get, and_self, if_true, line_eq]
  rw [Reader.bind_of_ok (skipBlanks_of_faces gapFaces blank solid short),
    Reader.bind_of_ok (Reader.peek_of_shows gapFaces.shows_past solid.plain)]
  simp only [Option.some.injEq, noParenthesis, if_false, Reader.pure_apply, gap_eq]
  rw [Cursor.past_append]
  rfl

/-- The newline ends the command. -/
theorem simpleStep_of_newline {nested : Nested} {line : Nat} {words : List Word}
    (nonempty : words ≠ []) (shows : cursor.Shows '\n' rest) (unrenewed : cursor.renewed = false) :
    simpleStep nested (wordsDraft line words) cursor =
      .ok (.inr (wordsDraft line words), cursor) := by
  have other : IsNoRedirection '\n' := ⟨by decide, by decide, by decide⟩
  have sought : seekWord skipBlanks words.isEmpty true cursor = .ok ((), cursor) :=
    seekWord_of_ok (skipBlanks_of_shows shows (by decide)) unrenewed
      fun empty => absurd (List.isEmpty_iff.mp empty) nonempty
  rw [simpleStep]
  simp only [wordsDraft, List.isEmpty_nil, Bool.and_self]
  rw [Reader.bind_of_ok sought, Reader.bind_get,
    Reader.bind_of_ok (redirection?_of_shows _ shows other)]
  simp only
  rw [Reader.bind_of_ok (wordIsNext_of_shows shows other)]
  rfl

/-! ### A line -/

/-- A line of one simple command: a name and arguments. -/
structure SimpleLine where
  name : Octets
  arguments : List Argument

namespace SimpleLine

/-- What the command takes up on its line. -/
def text (line : SimpleLine) : Octets := line.name ++ line.arguments.flatMap Argument.written

/-- The words of the command. -/
def words (line : SimpleLine) : List Word := [.plain line.name] :: line.arguments.map Argument.word

/-- Whether a line is read as its command: no word of it is anything else. -/
structure IsSound (line : SimpleLine) : Prop where
  isName : IsCommandName line.name
  sound : ∀ argument ∈ line.arguments, argument.IsSound
  apart : ∀ argument ∈ line.arguments, argument.gap ≠ []
  short : line.text.length < Reader.stepLimit

end SimpleLine

/-- Whether a line is next, at a place where nothing was met before that would change how it is
read. -/
structure Cursor.IsAtLine (cursor : Cursor) (line : SimpleLine) (rest : Octets) : Prop
    extends cursor.Faces line.text '\n' rest where
  sound : line.IsSound
  unrenewed : cursor.renewed = false
  spared : cursor.spared = none
  noAlias : cursor.aliases.lookup line.name = none ∧ cursor.aliases.lookup [] = none

namespace Cursor.IsAtLine

variable {line : SimpleLine} {depth : Nat}

theorem exists_isAtName (atLine : cursor.IsAtLine line rest) :
    ∃ stop more, cursor.IsAtName line.name stop more ∧
      line.arguments.flatMap Argument.written ++ '\n' :: rest = stop :: more := by
  obtain ⟨stop, more, stop_eq, plain, ends⟩ :=
    exists_stop atLine.sound.sound atLine.sound.apart rest
  refine ⟨stop, more, ⟨⟨?_, atLine.outside⟩, atLine.sound.isName, plain, ends, ?_, atLine.spared⟩,
    stop_eq⟩
  · rw [atLine.rest_eq, SimpleLine.text, List.append_assoc, stop_eq]
  · have short := atLine.sound.short
    rw [SimpleLine.text, List.length_append] at short
    omega

/-- The words of the line are read one after another. -/
theorem steps (atLine : cursor.IsAtLine line rest) (depth : Nat) :
    Reader.Steps (simpleStep (nestedAt (depth + 1))) (line.arguments.length + 1)
      (⟨none, [], [], []⟩, cursor)
      (wordsDraft cursor.line line.words.reverse, cursor.past line.text ('\n' :: rest)) := by
  obtain ⟨stop, more, atName, stop_eq⟩ := atLine.exists_isAtName
  have sound := atLine.sound.sound
  have apart := atLine.sound.apart
  obtain ⟨name, arguments⟩ := line
  cases arguments with
  | nil =>
    have gap_eq : stop :: more = [] ++ '\n' :: rest := stop_eq.symm
    have step := simpleStep_of_name (nestedAt (depth + 1)) atName gap_eq (List.forall_mem_nil _)
      (by decide) (by decide) (by decide) atLine.unrenewed atLine.noAlias.1
    exact .one step (by simpa [SimpleLine.words, SimpleLine.text] using .none _)
  | cons argument arguments =>
    obtain ⟨isSound, others⟩ := List.forall_mem_cons.mp sound
    obtain ⟨first, letters, text_eq, solid, -, noMeta⟩ := isSound.begins
    have noParenthesis : first ≠ '(' := by rintro rfl; cases noMeta
    have gap_eq : stop :: more = argument.gap ++ first :: (letters ++
        (arguments.flatMap Argument.written ++ '\n' :: rest)) := by
      rw [← stop_eq]
      simp [Argument.written, text_eq]
    have step := simpleStep_of_name (nestedAt (depth + 1)) atName gap_eq isSound.blank
      isSound.short solid noParenthesis atLine.unrenewed atLine.noAlias.1
    -- The blanks before the first argument are gone past with the name.
    have bare : (⟨[], argument.text, argument.word⟩ : Argument).IsSound :=
      ⟨List.forall_mem_nil _, (by decide : 0 < Reader.stepLimit), isSound.begins, isSound.reads⟩
    have bare_eq : first :: (letters ++ (arguments.flatMap Argument.written ++ '\n' :: rest)) =
        (⟨[], argument.text, argument.word⟩ :: arguments).flatMap Argument.written ++
          '\n' :: rest := by
      simp [Argument.written, text_eq]
    rw [bare_eq] at step
    have later := steps_of_arguments depth cursor.line (List.forall_mem_cons.mpr ⟨bare, others⟩)
      (List.forall_mem_cons.mp apart).2 (List.cons_ne_nil [.plain name] [])
      ⟨Cursor.rest_past cursor (name ++ argument.gap) (_ ++ '\n' :: rest),
        by rw [Cursor.inside_past, atLine.outside]⟩
      (by rw [Cursor.renewed_past, atLine.unrenewed])
    rw [Cursor.past_append] at later
    refine .one step ?_
    simpa [SimpleLine.words, SimpleLine.text, Argument.written] using later

/-- The place after the command, before the newline. -/
theorem shows_newline (atLine : cursor.IsAtLine line rest) :
    (cursor.past line.text ('\n' :: rest)).Shows '\n' rest := atLine.toFaces.shows_past

theorem few_steps (atLine : cursor.IsAtLine line rest) :
    line.arguments.length + 1 < Reader.stepLimit := by
  refine Nat.lt_of_le_of_lt ?_ atLine.sound.short
  have name_length : 0 < line.name.length := by
    refine List.length_pos_of_ne_nil ?_
    intro empty
    have isName := atLine.sound.isName.isName
    rw [empty] at isName
    cases isName
  have arguments_length := length_le_written atLine.sound.sound
  rw [SimpleLine.text, List.length_append]
  omega

/-- The line is read as a simple command. -/
theorem readSimple_eq (atLine : cursor.IsAtLine line rest) (body : Reader Command) :
    readSimple (nestedAt (depth + 1)) body cursor =
      .ok (.simple cursor.line [] line.words [], cursor.past line.text ('\n' :: rest)) := by
  have plain : IsPlain '\n' := by decide
  have nonempty : line.words ≠ [] := List.cons_ne_nil _ _
  have read := Reader.iterate_of_steps (atLine.steps depth) atLine.few_steps
    (simpleStep_of_newline (by simpa using nonempty) atLine.shows_newline
      (by rw [Cursor.renewed_past, atLine.unrenewed]))
  rw [readSimple, Reader.bind_of_ok read]
  rw [if_neg (by simpa [wordsDraft] using nonempty)]
  simp only [wordsDraft, List.isEmpty_nil, List.reverse_reverse, and_self, if_true]
  generalize line.words.reverse = reversed
  rcases reversed with _ | ⟨word, _ | _⟩
  · rfl
  · simp only
    rw [Reader.bind_of_ok (Reader.accept_of_ne atLine.shows_newline plain rfl (by decide))]
    rfl
  · rfl

/-- So it is where any command can stand. -/
theorem readCommand_eq (atLine : cursor.IsAtLine line rest) (limit : Nat) :
    readCommand (nestedAt (depth + 1)) (limit + 1) cursor =
      .ok (.simple cursor.line [] line.words [], cursor.past line.text ('\n' :: rest)) := by
  obtain ⟨stop, more, atName, -⟩ := atLine.exists_isAtName
  obtain ⟨first, letters, shows, solid, -, -⟩ := atName.exists_shows
  rw [readCommand, Reader.bind_of_ok (skipBlanks_of_shows shows solid), Reader.bind_get,
    Reader.bind_of_ok atName.compound?_eq]
  simp only
  rw [Reader.bind_of_ok atName.noEnd_eq]
  exact atLine.readSimple_eq _

/-- The line holds a pipeline of one command. -/
theorem readPipeline_eq (atLine : cursor.IsAtLine line rest) :
    readPipeline (nestedAt (depth + 1)) cursor =
      .ok (.mk false [.simple cursor.line [] line.words []],
        cursor.past line.text ('\n' :: rest)) := by
  obtain ⟨stop, more, atName, -⟩ := atLine.exists_isAtName
  obtain ⟨first, letters, shows, solid, -, -⟩ := atName.exists_shows
  have plain : IsPlain '\n' := by decide
  have newline := atLine.shows_newline
  rw [readPipeline, Reader.bind_of_ok (skipBlanks_of_shows shows solid),
    Reader.bind_of_ok (atName.acceptReserved_eq (by decide))]
  refine Reader.iterate_of_step ?_
  rw [show definitionLimit = 999999 + 1 from rfl, Reader.bind_of_ok (atLine.readCommand_eq 999999),
    Reader.bind_of_ok (skipBlanks_of_shows newline (by decide)),
    Reader.bind_of_ok (Reader.lookingAt_of_ne newline plain rfl (by decide)),
    Reader.bind_of_ok (Reader.lookingAt_of_ne newline plain rfl (by decide))]
  rfl

/-- The line holds a statement of one pipeline. -/
theorem readStatement_eq (atLine : cursor.IsAtLine line rest) :
    readStatement (nestedAt (depth + 1)) cursor =
      .ok (.mk (.mk false [.simple cursor.line [] line.words []]) [] false,
        cursor.past line.text ('\n' :: rest)) := by
  have plain : IsPlain '\n' := by decide
  have newline := atLine.shows_newline
  rw [readStatement, Reader.bind_of_ok atLine.readPipeline_eq]
  refine .trans (Reader.bind_of_ok (show _ = Except.ok ([],
    cursor.past line.text ('\n' :: rest)) from Reader.iterate_of_step ?_) _) ?_
  · rw [Reader.bind_of_ok (skipBlanks_of_shows newline (by decide))]
    simp only [List.forIn_cons, List.forIn_nil, bind_assoc]
    rw [Reader.bind_of_ok (Reader.accept_of_ne newline plain rfl (by decide))]
    simp only [Bool.false_eq_true, if_false, pure_bind, bind_assoc]
    rw [Reader.bind_of_ok (Reader.accept_of_ne newline plain rfl (by decide))]
    rfl
  · rw [Reader.bind_of_ok (Reader.accept_of_ne newline plain rfl (by decide))]
    rfl

end Cursor.IsAtLine

/-- The place after a line and its newline. -/
def Cursor.pastLine (cursor : Cursor) (line : SimpleLine) (rest : Octets) : Cursor :=
  cursor.past (line.text ++ ['\n']) rest

/-- The place from which a reader is run that reads documents of its own. -/
def Cursor.withoutDocuments (cursor : Cursor) : Cursor :=
  { cursor with asked := 0, pending := [], documents := [], known := [] }

theorem past_withoutDocuments (cursor : Cursor) (text rest : Octets) :
    cursor.withoutDocuments.past text rest = (cursor.past text rest).withoutDocuments := by
  induction text generalizing cursor with
  | nil => rfl
  | cons char text ih => exact ih (cursor.pass char (text ++ rest))

theorem restored_past (cursor : Cursor) (text rest : Octets) :
    { (cursor.past text rest).withoutDocuments with
      asked := cursor.asked
      pending := cursor.pending
      documents := cursor.documents
      known := cursor.known } = cursor.past text rest := by
  induction text generalizing cursor with
  | nil => rfl
  | cons char text ih => exact ih (cursor.pass char (text ++ rest))

theorem resolved_of_ok {α : Type} {reader : Reader α} {value : α} {text : Octets}
    (reads : reader cursor.withoutDocuments = .ok (value, cursor.withoutDocuments.past text rest)) :
    Reader.resolved reader cursor = .ok (value, cursor.past text rest) := by
  rw [past_withoutDocuments] at reads
  unfold Cursor.withoutDocuments at reads
  simp only [Reader.resolved, bind, Except.bind, reads]
  exact congrArg (fun place => Except.ok (value, place)) (restored_past cursor text rest)

theorem spliceAlias_of_newline (shows : cursor.Shows '\n' rest)
    (noAlias : cursor.aliases.lookup [] = none) (reserving : Bool) :
    spliceAlias reserving cursor = .ok (false, cursor) := by
  have word : (cursor.rest.takeWhile fun char => ! isMeta char && ! isAliasEnd char) = [] := by
    rw [shows.rest_eq]
    rfl
  rw [spliceAlias, Reader.bind_get]
  simp only [word, noAlias, ite_self]
  rfl

/-- The newline ends the line, if no documents were asked for. -/
theorem passLine_of_shows {nested : Nested} (shows : cursor.Shows '\n' rest)
    (nothing : cursor.pending = []) :
    passLine nested cursor = .ok ((), cursor.past ['\n'] rest) := by
  have pending_eq : (cursor.past ['\n'] rest).pending = [] := nothing
  have same : { cursor.past ['\n'] rest with pending := [] } = cursor.past ['\n'] rest := by
    rw [← pending_eq]
  rw [passLine, Reader.bind_of_ok (Reader.advance_of_shows shows (by decide)), readDocuments,
    Reader.bind_get, Reader.bind_modify, pending_eq, same]
  rfl

/-- The shell reads a line of one simple command as just that, and is then at the beginning of the
next line. -/
theorem readLine_of_isAtLine {line : SimpleLine} (atLine : cursor.IsAtLine line rest) :
    readLine cursor =
      .ok ([.mk (.mk false [.simple cursor.line [] line.words []]) [] false],
        cursor.pastLine line rest) := by
  rw [readLine]
  refine resolved_of_ok ?_
  have atStart : cursor.withoutDocuments.IsAtLine line rest :=
    ⟨⟨atLine.rest_eq, atLine.outside⟩, atLine.sound, atLine.unrenewed, atLine.spared,
      atLine.noAlias⟩
  have nothing : cursor.withoutDocuments.pending = [] := rfl
  rw [show cursor.line = cursor.withoutDocuments.line from rfl]
  generalize cursor.withoutDocuments = start at atStart nothing ⊢
  obtain ⟨stop, more, atName, -⟩ := atStart.exists_isAtName
  obtain ⟨first, letters, shows, solid, -, noMeta⟩ := atName.exists_shows
  have noNewline : first ≠ '\n' := by rintro rfl; cases noMeta
  have plain : IsPlain '\n' := by decide
  have newline := atStart.shows_newline
  refine Reader.iterate_of_two_steps (show _ = Except.ok (Sum.inl
    [.mk (.mk false [.simple start.line [] line.words []]) [] false],
      start.past line.text ('\n' :: rest)) from ?_) ?_
  · rw [seekCommand, Reader.bind_of_ok (seekWord_of_ok (skipBlanks_of_shows shows solid)
      atStart.unrenewed fun _ => atName.spliceAlias_eq atStart.noAlias.1 true),
      Reader.bind_of_ok (Reader.peek_of_shows shows solid.plain)]
    simp only
    rw [show nestingLimit = 999999 + 1 from rfl, Reader.bind_of_ok atStart.readStatement_eq]
    simp only
    rw [Reader.bind_of_ok (skipBlanks_of_shows newline (by decide)),
      Reader.bind_of_ok (Reader.lookingAt_of_ne newline plain rfl (by decide))]
    simp only [Bool.false_eq_true, if_false]
    rw [Reader.bind_of_ok (Reader.accept_of_ne newline plain rfl (by decide))]
    simp only [Bool.false_eq_true, if_false]
    rw [Reader.bind_of_ok (Reader.peek_of_shows newline plain)]
    rfl
  · rw [seekCommand, Reader.bind_of_ok (seekWord_of_ok (skipBlanks_of_shows newline (by decide))
      (by rw [Cursor.renewed_past, atStart.unrenewed]) fun _ => spliceAlias_of_newline newline
        (by rw [Cursor.aliases_past, atStart.noAlias.2]) true),
      Reader.bind_of_ok (Reader.peek_of_shows newline plain)]
    simp only
    rw [Reader.bind_of_ok (passLine_of_shows newline (by rw [Cursor.pending_past, nothing])),
      Cursor.past_concat]
    rfl

end ShellSmoke.Shell
