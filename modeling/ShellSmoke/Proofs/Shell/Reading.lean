/-
This file follows the readers of the shell through text that stands for itself. At a place outside
of documents, such a character is what is seen next, and going past it changes only what follows,
the line, and whether the place begins one. So the characters of a class are taken one by one, and
a text between quotes is read as just that text.
-/

import ShellSmoke.Shell.Grammar

namespace ShellSmoke.Shell

/-! ### Readers at a place -/

namespace Reader

variable {α β σ : Type}

@[simp]
theorem pure_apply (value : α) (cursor : Cursor) :
    (pure value : Reader α) cursor = .ok (value, cursor) := rfl

theorem bind_of_ok {reader : Reader α} {value : α} {cursor after : Cursor}
    (reads : reader cursor = .ok (value, after)) (more : α → Reader β) :
    (reader >>= more) cursor = more value after := by
  show (reader cursor).bind _ = _
  rw [reads]
  rfl

@[simp]
theorem bind_get (more : Cursor → Reader β) (cursor : Cursor) :
    ((get : Reader Cursor) >>= more) cursor = more cursor cursor := rfl

@[simp]
theorem bind_set (place : Cursor) (more : PUnit → Reader β) (cursor : Cursor) :
    ((set place : Reader PUnit) >>= more) cursor = more ⟨⟩ place := rfl

@[simp]
theorem bind_modify (change : Cursor → Cursor) (more : PUnit → Reader β) (cursor : Cursor) :
    ((modify change : Reader PUnit) >>= more) cursor = more ⟨⟩ (change cursor) := rfl

@[simp]
theorem modify_apply (change : Cursor → Cursor) (cursor : Cursor) :
    (modify change : Reader PUnit) cursor = .ok (⟨⟩, change cursor) := rfl

/-! ### Steps -/

/-- Whether so many steps lead from a state at a place to another state at another place. -/
inductive Steps (step : σ → Reader (σ ⊕ α)) : Nat → σ × Cursor → σ × Cursor → Prop where
  | none (start : σ × Cursor) : Steps step 0 start start
  | one {count : Nat} {state next : σ} {cursor after : Cursor} {last : σ × Cursor}
    (step_eq : step state cursor = .ok (.inl next, after))
    (more : Steps step count (next, after) last) : Steps step (count + 1) (state, cursor) last

/-- What steps come to, if they are fewer than any reader takes. -/
theorem iterate_of_steps {step : σ → Reader (σ ⊕ α)} {count : Nat} {state last : σ}
    {cursor place after : Cursor} {value : α}
    (steps : Steps step count (state, cursor) (last, place)) (few : count < stepLimit)
    (step_eq : step last place = .ok (.inr value, after)) :
    iterate step state cursor = .ok (value, after) := by
  suffices reached : ∀ limit, count < limit →
      iterate.go step limit state cursor = .ok (value, after) from reached stepLimit few
  clear few
  generalize start_eq : (state, cursor) = start at steps
  generalize last_eq : (last, place) = ending at steps
  induction steps generalizing state cursor with
  | none start =>
    intro limit positive
    cases start_eq.trans last_eq.symm
    obtain ⟨limit, rfl⟩ := Nat.exists_eq_succ_of_ne_zero (Nat.ne_of_gt positive)
    rw [iterate.go, step_eq]
  | one first_eq _ ih =>
    intro limit fewer
    cases start_eq
    obtain ⟨limit, rfl⟩ := Nat.exists_eq_succ_of_ne_zero (Nat.ne_zero_of_lt fewer)
    rw [iterate.go, first_eq]
    exact ih rfl last_eq limit (Nat.lt_of_succ_lt_succ fewer)

/-- What a single step comes to. -/
theorem iterate_of_step {step : σ → Reader (σ ⊕ α)} {state : σ} {cursor after : Cursor} {value : α}
    (step_eq : step state cursor = .ok (.inr value, after)) :
    iterate step state cursor = .ok (value, after) :=
  iterate_of_steps (.none _) (by decide) step_eq

/-- What a step comes to after another. -/
theorem iterate_of_two_steps {step : σ → Reader (σ ⊕ α)} {state next : σ}
    {cursor place after : Cursor} {value : α}
    (first_eq : step state cursor = .ok (.inl next, place))
    (step_eq : step next place = .ok (.inr value, after)) :
    iterate step state cursor = .ok (value, after) :=
  iterate_of_steps (.one first_eq (.none _)) (by decide) step_eq

end Reader

/-! ### Characters that stand for themselves -/

/-- Whether a character is no mark, and no backslash, which a newline could follow. -/
def IsPlain (char : Char) : Prop := isAliasEnd char = false ∧ char ≠ '\\'

instance (char : Char) : Decidable (IsPlain char) := inferInstanceAs (Decidable (_ ∧ _))

/-- Whether a character is next at a place outside of documents. -/
structure Cursor.Shows (cursor : Cursor) (char : Char) (rest : Octets) : Prop where
  rest_eq : cursor.rest = char :: rest
  outside : cursor.inside = none

namespace Cursor

/-- The place after a text. -/
def past (cursor : Cursor) : (text rest : Octets) → Cursor
  | [], rest => { cursor with rest }
  | char :: text, rest => (cursor.pass char (text ++ rest)).past text rest

@[simp]
theorem past_nil (cursor : Cursor) : cursor.past [] cursor.rest = cursor := rfl

@[simp]
theorem rest_past (cursor : Cursor) (text rest : Octets) : (cursor.past text rest).rest = rest := by
  induction text generalizing cursor with
  | nil => rfl
  | cons char text ih => exact ih _

@[simp]
theorem inside_past (cursor : Cursor) (text rest : Octets) :
    (cursor.past text rest).inside = cursor.inside := by
  induction text generalizing cursor with
  | nil => rfl
  | cons char text ih => exact ih _

@[simp]
theorem renewed_past (cursor : Cursor) (text rest : Octets) :
    (cursor.past text rest).renewed = cursor.renewed := by
  induction text generalizing cursor with
  | nil => rfl
  | cons char text ih => exact ih _

@[simp]
theorem pending_past (cursor : Cursor) (text rest : Octets) :
    (cursor.past text rest).pending = cursor.pending := by
  induction text generalizing cursor with
  | nil => rfl
  | cons char text ih => exact ih _

@[simp]
theorem aliases_past (cursor : Cursor) (text rest : Octets) :
    (cursor.past text rest).aliases = cursor.aliases := by
  induction text generalizing cursor with
  | nil => rfl
  | cons char text ih => exact ih _

theorem line_past (cursor : Cursor) (text rest : Octets) :
    (cursor.past text rest).line = cursor.line + text.count '\n' := by
  induction text generalizing cursor with
  | nil => rfl
  | cons char text ih =>
    rw [past, ih, pass, List.count_cons]
    by_cases newline : char = '\n'
    · simp [newline, Nat.add_assoc, Nat.add_comm 1]
    · simp [newline]

theorem past_append (cursor : Cursor) (first second rest : Octets) :
    (cursor.past first (second ++ rest)).past second rest = cursor.past (first ++ second) rest := by
  induction first generalizing cursor with
  | nil =>
    cases second with
    | nil => rfl
    | cons char second => rfl
  | cons char first ih =>
    simpa [past, List.append_assoc] using ih (cursor.pass char (first ++ (second ++ rest)))

theorem past_concat (cursor : Cursor) (text : Octets) (char : Char) (rest : Octets) :
    (cursor.past text (char :: rest)).past [char] rest = cursor.past (text ++ [char]) rest :=
  past_append cursor text [char] rest

variable {cursor : Cursor} {char : Char} {rest : Octets}

theorem Shows.passMarks_eq (shows : cursor.Shows char rest) (plain : isAliasEnd char = false) :
    cursor.passMarks = cursor := by
  unfold passMarks
  rw [shows.rest_eq]
  simp [plain]

theorem Shows.atEnding_eq (shows : cursor.Shows char rest) : cursor.atEnding = false := by
  simp [atEnding, shows.outside]

end Cursor

namespace Reader

variable {cursor : Cursor} {char : Char} {rest : Octets}

theorem passMarks_of_shows (shows : cursor.Shows char rest) (plain : isAliasEnd char = false) :
    passMarks cursor = .ok ((), cursor) := by
  rw [passMarks, modify_apply, shows.passMarks_eq plain]

theorem beginLine_of_outside {cursor : Cursor} (outside : cursor.inside = none) :
    beginLine cursor = .ok ((), cursor) := by
  simp [beginLine, outside]

theorem peekRaw_of_shows (shows : cursor.Shows char rest) (plain : isAliasEnd char = false) :
    peekRaw cursor = .ok (some char, cursor) := by
  rw [peekRaw, bind_of_ok (passMarks_of_shows shows plain), bind_get, shows.rest_eq]
  rfl

/-- A character that stands for itself is what is seen next. -/
theorem peek_of_shows (shows : cursor.Shows char rest) (plain : IsPlain char) :
    peek cursor = .ok (some char, cursor) := by
  refine iterate_of_step ?_
  rw [bind_of_ok (passMarks_of_shows shows plain.1),
    bind_of_ok (beginLine_of_outside shows.outside), bind_get]
  simp only [shows.atEnding_eq, Bool.false_eq_true, if_false, shows.rest_eq, List.cons.injEq,
    plain.2, false_and, imp_self, implies_true]
  rw [bind_of_ok (peekRaw_of_shows shows plain.1), pure_apply]

theorem advance_of_shows (shows : cursor.Shows char rest) (plain : isAliasEnd char = false) :
    advance cursor = .ok ((), cursor.past [char] rest) := by
  simp only [advance, modify_apply, shows.passMarks_eq plain, shows.rest_eq]
  rfl

theorem peekPlain_of_shows (shows : cursor.Shows char rest) (plain : isAliasEnd char = false) :
    peekPlain cursor = .ok (some char, cursor) := by
  rw [peekPlain, bind_of_ok (passMarks_of_shows shows plain),
    bind_of_ok (beginLine_of_outside shows.outside), bind_get]
  simp only [shows.atEnding_eq, Bool.false_eq_true, if_false]
  exact peekRaw_of_shows shows plain

/-! ### What is next -/

/-- A text that begins otherwise is not next. -/
theorem accept_of_ne {text : String} {first : Char} {more : Octets}
    (shows : cursor.Shows char rest) (plain : IsPlain char) (text_eq : text.toList = first :: more)
    (differs : char ≠ first) : accept text cursor = .ok (false, cursor) := by
  have unlike : accept.matchAll text.toList cursor = .ok (false, cursor) := by
    rw [text_eq, accept.matchAll, bind_of_ok (peek_of_shows shows plain),
      if_neg (by simpa using differs)]
    rfl
  rw [accept, bind_get, bind_of_ok unlike]
  rfl

/-- A character alone that is next is gone past. -/
theorem accept_of_eq {text : String} (shows : cursor.Shows char rest) (plain : IsPlain char)
    (text_eq : text.toList = [char]) :
    accept text cursor = .ok (true, cursor.past [char] rest) := by
  have alike : accept.matchAll text.toList cursor = .ok (true, cursor.past [char] rest) := by
    rw [text_eq, accept.matchAll, bind_of_ok (peek_of_shows shows plain), if_pos rfl,
      bind_of_ok (advance_of_shows shows plain.1)]
    rfl
  rw [accept, bind_get, bind_of_ok alike]
  rfl

theorem ahead_of_ok {α : Type} {reader : Reader α} {value : α} {cursor after : Cursor}
    (reads : reader cursor = .ok (value, after)) : ahead reader cursor = .ok (value, cursor) := by
  rw [ahead, bind_get, bind_of_ok reads, bind_set, pure_apply]

theorem lookingAt_of_ne {text : String} {first : Char} {more : Octets}
    (shows : cursor.Shows char rest) (plain : IsPlain char) (text_eq : text.toList = first :: more)
    (differs : char ≠ first) : lookingAt text cursor = .ok (false, cursor) :=
  ahead_of_ok (accept_of_ne shows plain text_eq differs)

end Reader

/-! ### Texts that stand for themselves -/

/-- Whether a text is next at a place outside of documents, before a character that stands for
itself. -/
structure Cursor.Faces (cursor : Cursor) (text : Octets) (stop : Char) (rest : Octets) : Prop where
  rest_eq : cursor.rest = text ++ stop :: rest
  outside : cursor.inside = none

namespace Cursor.Faces

variable {cursor : Cursor} {char stop : Char} {text rest : Octets}

theorem shows (faces : cursor.Faces (char :: text) stop rest) :
    cursor.Shows char (text ++ stop :: rest) := ⟨faces.rest_eq, faces.outside⟩

theorem tail (faces : cursor.Faces (char :: text) stop rest) :
    (cursor.past [char] (text ++ stop :: rest)).Faces text stop rest :=
  ⟨rest_past _ _ _, (inside_past _ _ _).trans faces.outside⟩

theorem past_eq (faces : cursor.Faces [] stop rest) : cursor.past [] (stop :: rest) = cursor := by
  show { cursor with rest := stop :: rest } = cursor
  rw [show stop :: rest = cursor.rest from faces.rest_eq.symm]

end Cursor.Faces

namespace Reader

variable {α σ : Type} {cursor : Cursor} {stop : Char} {text rest : Octets}

/-- A step that goes past each character of a text leads past the text. -/
theorem steps_of_faces {step : σ → Reader (σ ⊕ α)} (put : σ → Char → σ) (state : σ)
    (faces : cursor.Faces text stop rest)
    (goes : ∀ char after, char :: after <:+ text → ∀ state (cursor : Cursor),
      cursor.Shows char (after ++ stop :: rest) →
        step state cursor =
          .ok (.inl (put state char), cursor.past [char] (after ++ stop :: rest))) :
    Steps step text.length (state, cursor)
      (text.foldl put state, cursor.past text (stop :: rest)) := by
  induction text generalizing state cursor with
  | nil =>
    rw [faces.past_eq]
    exact .none _
  | cons char text ih =>
    refine .one (goes char text List.suffix_rfl state cursor faces.shows) ?_
    have later := ih (put state char) faces.tail
      fun char after suffix => goes char after (suffix.trans (List.suffix_cons _ _))
    rwa [Cursor.past_append] at later

/-- The characters of a class are taken, up to one outside of it. -/
theorem takeWhile_of_faces (inClass : Char → Bool) (faces : cursor.Faces text stop rest)
    (plain : ∀ char ∈ text, IsPlain char ∧ inClass char = true) (stopPlain : IsPlain stop)
    (stops : inClass stop = false) (short : text.length < stepLimit) :
    takeWhile inClass cursor = .ok (text, cursor.past text (stop :: rest)) := by
  refine iterate_of_steps (steps_of_faces (fun taken char => char :: taken) [] faces ?_) short ?_
  · intro char after suffix taken cursor shows
    obtain ⟨isPlain, isIn⟩ := plain char (suffix.subset List.mem_cons_self)
    rw [bind_of_ok (peek_of_shows shows isPlain)]
    simp only [isIn, if_true]
    rw [bind_of_ok (advance_of_shows shows isPlain.1), pure_apply]
  · have shows : (cursor.past text (stop :: rest)).Shows stop rest :=
      ⟨Cursor.rest_past _ _ _, (Cursor.inside_past _ _ _).trans faces.outside⟩
    rw [bind_of_ok (peek_of_shows shows stopPlain), List.foldl_flip_cons_eq_append']
    simp [stops]

/-- Nothing is taken where no character of the class is next. -/
theorem takeWhile_of_shows (inClass : Char → Bool) (shows : cursor.Shows stop rest)
    (plain : IsPlain stop) (stops : inClass stop = false) :
    takeWhile inClass cursor = .ok ([], cursor) := by
  refine iterate_of_step ?_
  rw [bind_of_ok (peek_of_shows shows plain)]
  simp [stops]

end Reader

/-! ### Fragments -/

/-- Whether a character is nothing special in a setting. -/
structure Setting.Leaves (setting : Setting) (char : Char) : Prop where
  plain : IsPlain char
  goesOn : setting.stops char = false
  noDollar : char ≠ '$'
  noBackquote : char ≠ '\x60'
  noQuote : setting.quoting = false → char ≠ '\x27'
  noDoubleQuote : setting.quotable = true → char ≠ '\x22'
  noParenthesis : setting.counting = true → char ≠ '(' ∧ char ≠ ')'

/-- Whether a dollar sign before a character stands for itself. -/
def IsSpare (char : Char) : Prop :=
  IsPlain char ∧ isSpecialParameter char = false ∧ Octets.beginsName char = false ∧ char ≠ '(' ∧
    char ≠ '\x7b'

/-- Whether each character of a text before another stands for itself in a setting. -/
def Setting.Holds (setting : Setting) (stop : Char) : Octets → Prop
  | [] => True
  | char :: text => (setting.Leaves char ∨
      char = '$' ∧ setting.stops '$' = false ∧ IsSpare (text.headD stop)) ∧ setting.Holds stop text

section

variable {nested : Nested} {setting : Setting} {cursor : Cursor} {char stop : Char}
  {text rest : Octets}

theorem textStep_of_leaves (leaves : setting.Leaves char) (draft : Draft)
    (shows : cursor.Shows char rest) :
    textStep nested setting draft cursor =
      .ok (.inl (draft.put char), cursor.past [char] rest) := by
  rw [textStep, Reader.bind_of_ok (Reader.peek_of_shows shows leaves.plain)]
  simp only [leaves.goesOn, Bool.false_eq_true, if_false]
  rw [Reader.bind_of_ok (Reader.advance_of_shows shows leaves.plain.1)]
  have noQuote : ¬(char = '\x27' ∧ ¬setting.quoting = true) :=
    fun both => leaves.noQuote (by simpa using both.2) both.1
  have noDoubleQuote : ¬(char = '\x22' ∧ setting.quotable = true) :=
    fun both => leaves.noDoubleQuote both.2 both.1
  have noParenthesis : ¬(setting.counting = true ∧ (char = '(' ∨ char = ')')) :=
    fun both => both.2.elim (leaves.noParenthesis both.1).1 (leaves.noParenthesis both.1).2
  rw [if_neg leaves.plain.2, if_neg fun both => leaves.noDollar both.1, if_neg leaves.noBackquote,
    if_neg noQuote, if_neg noDoubleQuote, if_neg noParenthesis, Reader.pure_apply]

/-- A dollar sign that nothing follows that it could belong to stands for itself. -/
theorem textStep_of_dollar (goesOn : setting.stops '$' = false) (spare : IsSpare char)
    (draft : Draft) (shows : cursor.Shows '$' (char :: rest)) :
    textStep nested setting draft cursor =
      .ok (.inl (draft.put '$'), cursor.past ['$'] (char :: rest)) := by
  have plain : IsPlain '$' := by decide
  have next : (cursor.past ['$'] (char :: rest)).Shows char rest :=
    ⟨Cursor.rest_past _ _ _, (Cursor.inside_past _ _ _).trans shows.outside⟩
  rw [textStep, Reader.bind_of_ok (Reader.peek_of_shows shows plain)]
  simp only [goesOn, Bool.false_eq_true, if_false]
  rw [Reader.bind_of_ok (Reader.advance_of_shows shows plain.1), if_neg (by decide)]
  obtain ⟨isPlain, noParameter, noName, noParenthesis, noBrace⟩ := spare
  split
  · have dollar_eq : dollar nested setting (cursor.past ['$'] (char :: rest)) =
        .ok (.plain ['$'], cursor.past ['$'] (char :: rest)) := by
      rw [dollar, Reader.bind_of_ok (Reader.accept_of_ne next isPlain rfl noParenthesis)]
      simp only [Bool.false_eq_true, if_false]
      rw [Reader.bind_of_ok (Reader.accept_of_ne next isPlain rfl noParenthesis)]
      simp only [Bool.false_eq_true, if_false]
      rw [Reader.bind_of_ok (Reader.accept_of_ne next isPlain rfl noBrace)]
      simp only [Bool.false_eq_true, if_false]
      rw [Reader.bind_of_ok (Reader.peek_of_shows next isPlain)]
      simp [noParameter, noName]
    rw [Reader.bind_of_ok dollar_eq]
    rfl
  · rw [if_neg (by decide), if_neg (by simp), if_neg (by simp), if_neg (by simp), Reader.pure_apply]

/-- The word that a text is which stands for itself. -/
def plainWord (text : Octets) : Word := if text.isEmpty then [] else [.plain text]

theorem foldl_put (draft : Draft) (text : Octets) :
    text.foldl Draft.put draft = { draft with run := text.reverse ++ draft.run } := by
  induction text generalizing draft with
  | nil => rfl
  | cons char text ih =>
    rw [List.foldl_cons, ih, List.reverse_cons, List.append_assoc]
    rfl

theorem flush_foldl_put (text : Octets) :
    (text.foldl Draft.put ⟨[], [], 0⟩).flush.reverse = plainWord text := by
  rw [foldl_put]
  cases text with
  | nil => rfl
  | cons char text => simp [Draft.flush, plainWord]

theorem Setting.holds_of_leaves (leaves : ∀ char ∈ text, setting.Leaves char) :
    setting.Holds stop text := by
  induction text with
  | nil => trivial
  | cons char text ih =>
    obtain ⟨charLeaves, others⟩ := List.forall_mem_cons.mp leaves
    exact ⟨.inl charLeaves, ih others⟩

theorem Setting.Holds.of_suffix (holds : setting.Holds stop text) {part : Octets}
    (suffix : part <:+ text) : setting.Holds stop part := by
  induction text with
  | nil => rwa [List.eq_nil_of_suffix_nil suffix]
  | cons char text ih =>
    rcases List.suffix_cons_iff.mp suffix with rfl | suffix
    · exact holds
    · exact ih holds.2 suffix

/-- A text that stands for itself is read as such, up to a character that ends it. -/
theorem readText_of_holds (nested : Nested) (holds : setting.Holds stop text)
    (faces : cursor.Faces text stop rest) (plain : IsPlain stop) (stops : setting.stops stop = true)
    (short : text.length < Reader.stepLimit) :
    readText nested setting cursor = .ok (plainWord text, cursor.past text (stop :: rest)) := by
  refine Reader.iterate_of_steps (Reader.steps_of_faces Draft.put ⟨[], [], 0⟩ faces ?_) short ?_
  · intro char after suffix draft cursor shows
    rcases (holds.of_suffix suffix).1 with leaves | ⟨rfl, goesOn, spare⟩
    · exact textStep_of_leaves leaves draft shows
    · cases after with
      | nil => exact textStep_of_dollar goesOn spare draft shows
      | cons next after => exact textStep_of_dollar goesOn spare draft shows
  · have shows : (cursor.past text (stop :: rest)).Shows stop rest :=
      ⟨Cursor.rest_past _ _ _, (Cursor.inside_past _ _ _).trans faces.outside⟩
    rw [textStep, Reader.bind_of_ok (Reader.peek_of_shows shows plain)]
    simp only [stops, if_true, Reader.pure_apply]
    rw [flush_foldl_put]

/-! ### Quotations -/

theorem Cursor.Faces.shows_past (faces : cursor.Faces text stop rest) :
    (cursor.past text (stop :: rest)).Shows stop rest :=
  ⟨Cursor.rest_past _ _ _, (Cursor.inside_past _ _ _).trans faces.outside⟩

/-- What stands between double quotes is one part of a word. -/
theorem textStep_of_doubleQuotes (depth : Nat) (quotable : setting.quotable = true)
    (goesOn : setting.stops '\x22' = false) (holds : setting.quotes.Holds '\x22' text)
    (short : text.length < Reader.stepLimit) (draft : Draft)
    (faces : cursor.Faces ('\x22' :: text) '\x22' rest) :
    textStep (nestedAt (depth + 1)) setting draft cursor =
      .ok (.inl (draft.add (.grouped (plainWord text))),
        cursor.past ('\x22' :: text ++ ['\x22']) rest) := by
  have plain : IsPlain '\x22' := by decide
  have inner : (nestedAt (depth + 1)).text setting.quotes
      (cursor.past ['\x22'] (text ++ '\x22' :: rest)) =
        .ok (plainWord text, cursor.past ('\x22' :: text) ('\x22' :: rest)) := by
    have read := readText_of_holds (nestedAt depth) holds faces.tail plain rfl short
    rwa [Cursor.past_append] at read
  rw [textStep, Reader.bind_of_ok (Reader.peek_of_shows faces.shows plain)]
  simp only [goesOn, Bool.false_eq_true, if_false]
  rw [Reader.bind_of_ok (Reader.advance_of_shows faces.shows plain.1), if_neg (by decide),
    if_neg (by simp), if_neg (by decide), if_neg (by simp), if_pos ⟨trivial, quotable⟩,
    Reader.bind_of_ok inner, Reader.bind_of_ok (Reader.accept_of_eq faces.shows_past plain rfl),
    if_pos rfl, Reader.pure_apply, Cursor.past_concat]

/-- So is what stands between single quotes; nothing is special there. -/
theorem textStep_of_singleQuotes (unquoted : setting.quoting = false)
    (goesOn : setting.stops '\x27' = false)
    (plain : ∀ char ∈ text, isAliasEnd char = false ∧ char ≠ '\x27')
    (short : text.length < Reader.stepLimit) (draft : Draft)
    (faces : cursor.Faces ('\x27' :: text) '\x27' rest) :
    textStep nested setting draft cursor =
      .ok (.inl (draft.add (.grouped [.plain text])),
        cursor.past ('\x27' :: text ++ ['\x27']) rest) := by
  have quote : IsPlain '\x27' := by decide
  have inner : singleQuotes setting (cursor.past ['\x27'] (text ++ '\x27' :: rest)) =
      .ok (text, cursor.past ('\x27' :: text ++ ['\x27']) rest) := by
    refine Reader.iterate_of_steps
      (Reader.steps_of_faces (fun taken char => char :: taken) [] faces.tail ?_) short ?_
    · intro char after suffix taken cursor shows
      obtain ⟨isPlain, noQuote⟩ := plain char (suffix.subset List.mem_cons_self)
      rw [Reader.bind_of_ok (Reader.peekPlain_of_shows shows isPlain)]
      simp only
      rw [Reader.bind_of_ok (Reader.advance_of_shows shows isPlain), Reader.pure_apply]
    · rw [Reader.bind_of_ok (Reader.peekPlain_of_shows faces.tail.shows_past quote.1)]
      simp only
      rw [Reader.bind_of_ok (Reader.advance_of_shows faces.tail.shows_past quote.1),
        List.foldl_flip_cons_eq_append', List.append_nil, List.reverse_reverse, Reader.pure_apply,
        Cursor.past_append, Cursor.past_concat]
      rfl
  rw [textStep, Reader.bind_of_ok (Reader.peek_of_shows faces.shows quote)]
  simp only [goesOn, Bool.false_eq_true, if_false]
  rw [Reader.bind_of_ok (Reader.advance_of_shows faces.shows quote.1), if_neg (by decide),
    if_neg (by simp), if_neg (by decide), if_pos ⟨trivial, by simp [unquoted]⟩,
    Reader.bind_of_ok inner, Reader.pure_apply]

/-- Between double quotes, most characters stand for themselves. -/
theorem leaves_quotes (plain : IsPlain char) (noSign : char ∉ ['$', '\x60', '\x22']) :
    Setting.word.quotes.Leaves char := by
  simp only [List.mem_cons, List.not_mem_nil, or_false, not_or] at noSign
  exact ⟨plain, decide_eq_false noSign.2.2, noSign.1, noSign.2.1, nofun, fun _ => noSign.2.2, nofun⟩

/-! ### Words -/

/-- Whether a text is read as a word wherever it stands before a character that ends words. -/
def ReadsAs (text : Octets) (word : Word) : Prop :=
  ∀ (depth : Nat) (cursor : Cursor) (stop : Char) (rest : Octets), cursor.Faces text stop rest →
    IsPlain stop → isMeta stop = true →
      readText (nestedAt (depth + 1)) .word cursor = .ok (word, cursor.past text (stop :: rest))

/-- What ends a word makes it of the parts that were read before. -/
theorem textStep_of_isMeta {fragments : List Fragment} (shows : cursor.Shows stop rest)
    (plain : IsPlain stop) (ends : isMeta stop = true) :
    textStep nested .word ⟨fragments, [], 0⟩ cursor = .ok (.inr fragments.reverse, cursor) := by
  rw [textStep, Reader.bind_of_ok (Reader.peek_of_shows shows plain)]
  simp only [Setting.word, ends, if_true, Reader.pure_apply]
  simp [Draft.flush]

/-- A text between double quotes is a word of one part. -/
theorem readsAs_doubleQuotes (holds : Setting.word.quotes.Holds '\x22' text)
    (short : text.length < Reader.stepLimit) :
    ReadsAs ('\x22' :: text ++ ['\x22']) [.grouped (plainWord text)] := by
  intro depth cursor stop rest faces plain ends
  have quoted : cursor.Faces ('\x22' :: text) '\x22' (stop :: rest) :=
    ⟨by rw [faces.rest_eq, List.append_assoc]; rfl, faces.outside⟩
  exact Reader.iterate_of_two_steps
    (textStep_of_doubleQuotes depth rfl rfl holds short ⟨[], [], 0⟩ quoted)
    (textStep_of_isMeta faces.shows_past plain ends)

end

end ShellSmoke.Shell
