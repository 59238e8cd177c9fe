/-
This file says what becomes of words of which nothing is special: the text that they stand for. The
parts of such a word expand to characters that no field is split at and no pattern is made of, so
the word is one field, and the field is no pattern. Nothing that the shell knows has a part in this,
and nothing of it changes.
-/

import Mathlib.Data.List.Forall2
import ShellSmoke.Proofs.Shell.Pattern
import ShellSmoke.Shell.Expansion

namespace ShellSmoke.Shell

open Machine

/-! ### Work -/

section

variable {α β : Type} {before after : Session} {action : Work α} {value : α}

instance : LawfulMonad Routine :=
  LawfulMonad.mk' Routine (fun _ => rfl) (fun _ _ => rfl) (fun _ _ _ => rfl)

/-- Whether work comes to a value without a request, and what is known then. -/
def Yields (action : Work α) (before : Session) (value : α) (after : Session) : Prop :=
  action before = pure (.ok value, after)

theorem bind_of_yields (yields : Yields action before value after) (more : α → Work β) :
    (action >>= more) before = more value after := by
  show Routine.andThen (action before) _ = _
  rw [yields]
  rfl

theorem yields_pure (value : α) (session : Session) :
    Yields (pure value) session value session := rfl

theorem yields_get (session : Session) : Yields get session session session := rfl

end

/-! ### Parts that spell a text -/

/-- Whether parts of an expanded word are characters that stand for themselves, and signs. -/
inductive Spells : List Atom → Octets → Prop where
  | nil : Spells [] []
  | presence {atoms : List Atom} {text : Octets} (spells : Spells atoms text) :
    Spells (.presence :: atoms) text
  | sign (sign : Char) {atoms : List Atom} {text : Octets} (spells : Spells atoms text) :
    Spells (.sign sign :: atoms) text
  | char {mark : Mark} {atoms : List Atom} {text : Octets} (settled : Pattern.IsSettled mark)
    (spells : Spells atoms text) : Spells (.char mark false :: atoms) (mark.char :: text)

section

variable {atoms more : List Atom} {text rest : Octets}

theorem Spells.append (spells : Spells atoms text) (later : Spells more rest) :
    Spells (atoms ++ more) (text ++ rest) := by
  induction spells with
  | nil => exact later
  | presence _ inductionHypothesis => exact .presence inductionHypothesis
  | sign sign _ inductionHypothesis => exact .sign sign inductionHypothesis
  | char settled _ inductionHypothesis => exact .char settled inductionHypothesis

theorem Spells.settled (spells : Spells atoms text) (separators : Octets) :
    ∀ mark ∈ atomMarks separators atoms, Pattern.IsSettled mark := by
  induction spells with
  | nil => exact List.forall_mem_nil _
  | presence _ inductionHypothesis => exact inductionHypothesis
  | sign _ _ inductionHypothesis => exact inductionHypothesis
  | char settled _ inductionHypothesis =>
    exact List.forall_mem_cons.mpr ⟨settled, inductionHypothesis⟩

theorem Spells.map_char (spells : Spells atoms text) (separators : Octets) :
    (atomMarks separators atoms).map (·.char) = text := by
  induction spells with
  | nil => rfl
  | presence _ inductionHypothesis => exact inductionHypothesis
  | sign _ _ inductionHypothesis => exact inductionHypothesis
  | char _ _ inductionHypothesis => exact congrArg (_ :: ·) inductionHypothesis

/-- No field is split at such parts. -/
theorem Spells.foldl_step (spells : Spells atoms text) (separators : Octets)
    (splitting : Splitting) :
    ∃ spaced, atoms.foldl (Splitting.step separators) splitting =
      ⟨splitting.fields, (atomMarks separators atoms).reverse ++ splitting.marks,
        splitting.started || atoms.contains .presence || ! text.isEmpty, spaced⟩ := by
  induction spells generalizing splitting with
  | nil => exact ⟨splitting.spaced, by simp [atomMarks]⟩
  | presence _ inductionHypothesis =>
    obtain ⟨spaced, eq⟩ := inductionHypothesis { splitting with started := true, spaced := false }
    exact ⟨spaced, by simpa [Splitting.step, atomMarks] using eq⟩
  | sign _ _ inductionHypothesis =>
    obtain ⟨spaced, eq⟩ := inductionHypothesis splitting
    exact ⟨spaced, by simpa [Splitting.step, atomMarks] using eq⟩
  | @char mark atoms text _ _ inductionHypothesis =>
    obtain ⟨spaced, eq⟩ := inductionHypothesis
      { splitting with marks := mark :: splitting.marks, started := true, spaced := false }
    exact ⟨spaced, by simpa [Splitting.step, atomMarks] using eq⟩

/-- Such parts are one field, if there is anything of it. -/
theorem Spells.splitFields_eq (spells : Spells atoms text) (separators : Octets)
    (present : .presence ∈ atoms ∨ text ≠ []) :
    splitFields separators atoms = [atomMarks separators atoms] := by
  obtain ⟨spaced, eq⟩ := spells.foldl_step separators ⟨[], [], false, false⟩
  have started : (atoms.contains Atom.presence || ! text.isEmpty) = true := by
    simpa using present
  rw [splitFields, eq, Bool.false_or, started]
  simp [Splitting.close]

theorem isWild_of_isSettled {marks : List Mark} (settled : ∀ mark ∈ marks, Pattern.IsSettled mark) :
    (Pattern.ofMarks marks).isWild = false := by
  rw [Pattern.ofMarks_of_isSettled settled]
  simp [Pattern.isWild]

/-- A field that is no pattern is its text. -/
theorem yields_expandField {marks : List Mark} (settled : ∀ mark ∈ marks, Pattern.IsSettled mark)
    (session : Session) :
    Yields (expandField marks) session [marks.map (·.char)] session := by
  unfold expandField
  simp only [isWild_of_isSettled settled, Bool.false_eq_true, false_and, if_false]
  exact yields_pure _ session

end

/-! ### Fragments -/

/-- Whether a fragment stands for a text, whatever the shell knows. -/
inductive Fragment.StandsFor : Fragment → Octets → Prop where
  | plain {text : Octets} (tame : ∀ char ∈ text, char ∉ ['*', '?', '[', '\\', '~'])
    (nonempty : text ≠ []) : StandsFor (.plain text) text
  | quoted (text : Octets) : StandsFor (.quoted text) text
  | grouped (parts : List Octets) : StandsFor (.grouped (parts.map .plain)) parts.flatten

section

variable {manner : Manner} {fragment : Fragment} {text : Octets}

theorem spells_text {quoted : Bool} (settled : ∀ char ∈ text, Pattern.IsSettled ⟨char, quoted⟩) :
    Spells ((text.map (⟨·, quoted⟩)).map (.char · false)) text := by
  induction text with
  | nil => exact .nil
  | cons char text inductionHypothesis =>
    obtain ⟨isSettled, others⟩ := List.forall_mem_cons.mp settled
    exact .char isSettled (inductionHypothesis others)

theorem spells_signed (text : Octets) :
    Spells (text.flatMap fun char => [.sign Pattern.guardSign, .char ⟨char, true⟩ false]) text := by
  induction text with
  | nil => exact .nil
  | cons char text inductionHypothesis =>
    exact .sign _ (.char (.inl rfl) inductionHypothesis)

/-- Between double quotes, a text stands for itself. -/
theorem yields_quotedParts (means : Means) (session : Session) (first : Bool)
    (quoted : manner.quoted = true) (parts : List Octets) :
    ∃ atoms, Yields (expandFragments means manner first (parts.map .plain)) session atoms session ∧
      Spells atoms parts.flatten := by
  induction parts generalizing first with
  | nil => exact ⟨[], by rw [List.map_nil, expandFragments]; exact yields_pure _ _, .nil⟩
  | cons part parts inductionHypothesis =>
    obtain ⟨atoms, yields, spells⟩ := inductionHypothesis false
    have spellsPart : Spells ((part.map (⟨·, true⟩)).map (.char · false)) part :=
      spells_text fun _ _ => .inl rfl
    refine ⟨_, ?_, spellsPart.append spells⟩
    have marks : Yields (plainMarks manner first (parts.map Fragment.plain).isEmpty part) session
        (part.map (⟨·, true⟩)) session := by
      rw [plainMarks, if_pos quoted]
      exact yields_pure _ _
    rw [List.map_cons, expandFragments, expandFragment, Yields, bind_assoc, bind_of_yields marks,
      pure_bind, bind_of_yields yields]
    rfl

/-- A text without tildes stands for no home directory. -/
theorem yields_plainMarks (session : Session) (first last : Bool)
    (plain : manner.quoted = false ∧ manner.assigning = false) (noTilde : '~' ∉ text) :
    Yields (plainMarks manner first last text) session (text.map (⟨·, false⟩)) session := by
  have kept (complete : Bool) : Yields (untildePart complete text) session
      (text.map (⟨·, false⟩)) session := by
    unfold untildePart
    split
    · exact absurd List.mem_cons_self noTilde
    · exact yields_pure _ session
  rw [plainMarks, plain.1, plain.2]
  simp only [Bool.false_eq_true, if_false, List.zipIdx_singleton, List.mapM_cons, List.mapM_nil,
    Nat.lt_irrefl, false_or, bind_assoc, pure_bind, List.intercalate_singleton]
  split
  · rw [Yields, bind_of_yields (kept _)]
    rfl
  · exact yields_pure _ session

/-- Such a fragment expands to its text. -/
theorem yields_expandFragment (means : Means) (session : Session) (first last : Bool)
    (plain : manner.quoted = false ∧ manner.assigning = false) (stands : fragment.StandsFor text) :
    ∃ atoms, Yields (expandFragment means manner first last fragment) session atoms session ∧
      Spells atoms text ∧ (.presence ∈ atoms ∨ text ≠ []) := by
  cases stands with
  | plain tame nonempty =>
    have settled : ∀ char ∈ text, Pattern.IsSettled ⟨char, false⟩ := fun char mem =>
      .inr fun mark => tame char mem (List.mem_append_left ['~'] mark)
    refine ⟨_, ?_, spells_text settled, .inr nonempty⟩
    have marks : Yields (plainMarks manner first last text) session (text.map (⟨·, false⟩))
        session :=
      yields_plainMarks session first last plain fun tilde => tame '~' tilde (by decide)
    rw [expandFragment, Yields, bind_of_yields marks]
    rfl
  | quoted =>
    refine ⟨_, ?_, .presence (spells_signed text), .inl List.mem_cons_self⟩
    rw [expandFragment]
    exact yields_pure _ _
  | grouped parts =>
    have inner : ({ manner with quoted := true } : Manner).quoted = true := rfl
    obtain ⟨atoms, yields, spells⟩ := yields_quotedParts means session true inner parts
    have closed : Spells (atoms ++ [.sign Pattern.quoteSign]) parts.flatten := by
      simpa using spells.append (.sign Pattern.quoteSign .nil)
    refine ⟨_, ?_, .presence (.sign Pattern.quoteSign closed), .inl List.mem_cons_self⟩
    rw [expandFragment, Yields, bind_of_yields yields]
    have noArguments : (parts.map Fragment.plain).any isArguments = false := by
      rw [List.any_map]
      exact List.any_eq_false.mpr fun _ _ => Bool.false_ne_true
    rw [bind_of_yields (yields_get session)]
    simp only [noArguments, Bool.false_eq_true, false_and, if_false]
    rfl

end

/-! ### Words -/

/-- Whether a word stands for a text, part by part. -/
def Word.StandsFor (word : Word) (text : Octets) : Prop :=
  word ≠ [] ∧ ∃ texts, List.Forall₂ Fragment.StandsFor word texts ∧ texts.flatten = text

section

variable {manner : Manner} {word : Word} {text : Octets}

theorem yields_expandFragments (means : Means) (session : Session) (first : Bool)
    (plain : manner.quoted = false ∧ manner.assigning = false) {texts : List Octets}
    (stands : List.Forall₂ Fragment.StandsFor word texts) :
    ∃ atoms, Yields (expandFragments means manner first word) session atoms session ∧
      Spells atoms texts.flatten ∧ (word ≠ [] → .presence ∈ atoms ∨ texts.flatten ≠ []) := by
  induction stands generalizing first with
  | nil => exact ⟨[], by rw [expandFragments]; exact yields_pure _ _, .nil, absurd rfl⟩
  | @cons fragment text rest texts isText _ inductionHypothesis =>
    obtain ⟨atoms, yields, spells, present⟩ :=
      yields_expandFragment means session first rest.isEmpty plain isText
    obtain ⟨others, yieldsOthers, spellsOthers, -⟩ := inductionHypothesis false
    refine ⟨atoms ++ others, ?_, spells.append spellsOthers, fun _ => ?_⟩
    · rw [expandFragments, Yields, bind_of_yields yields, bind_of_yields yieldsOthers]
      rfl
    · exact present.imp (List.mem_append_left others) fun nonempty empty =>
        nonempty (List.append_eq_nil_iff.mp empty).1

/-- Such a word expands to its text alone. -/
theorem yields_expandWords (means : Means) (session : Session) (stands : word.StandsFor text) :
    Yields (expandWords means [word]) session [text] session := by
  obtain ⟨nonempty, texts, stands, rfl⟩ := stands
  have plain : (⟨false, false, true⟩ : Manner).quoted = false ∧
      (⟨false, false, true⟩ : Manner).assigning = false := ⟨rfl, rfl⟩
  obtain ⟨atoms, yields, spells, present⟩ := yields_expandFragments means session true plain stands
  have field : Yields (expandField (atomMarks session.separators atoms)) session [texts.flatten]
      session := by
    have expanded := yields_expandField (spells.settled session.separators) session
    rwa [spells.map_char] at expanded
  rw [expandWords]
  simp only [List.mapM_cons, List.mapM_nil, bind_assoc, pure_bind]
  rw [Yields, bind_of_yields yields, bind_of_yields (yields_get session),
    spells.splitFields_eq session.separators (present nonempty)]
  simp only [List.mapM_cons, List.mapM_nil, bind_assoc, pure_bind]
  rw [bind_of_yields field]
  rfl

end

/-! ### Commands -/

/-- Whether no argument of the command of a name is an assignment, even if it looks like one. -/
def IsNoDeclarer (name : Octets) : Prop := name ≠ finderName ∧ declares [name] = false

section

variable {means : Means} {session : Session} {name : Octets} {words : List Word}
  {texts : List Octets}

theorem no_assignment (known : List Octets) (undeclaring : declares known = false) (word : Word) :
    ((assignmentOf? word).filter fun _ => declares known) = none := by
  rw [undeclaring, Option.filter_eq_none_iff]
  exact fun _ _ => Bool.false_ne_true

theorem yields_expandArguments (noDeclarer : IsNoDeclarer name)
    (stands : List.Forall₂ Word.StandsFor words texts) :
    Yields (expandCommand means [name] words) session texts session := by
  have decided : ¬([name].isEmpty = true ∨ [name].head? = some finderName) := by
    rintro (empty | found)
    · cases empty
    · exact noDeclarer.1 (Option.some.inj found)
  induction stands with
  | nil => rw [expandCommand]; exact yields_pure _ _
  | cons isText _ inductionHypothesis =>
    rw [expandCommand]
    simp only [no_assignment [name] noDeclarer.2, if_neg decided]
    rw [Yields, bind_of_yields (yields_expandWords means session isText),
      bind_of_yields inductionHypothesis]
    rfl

/-- Words that stand for texts expand to those, and change nothing that the shell knows. -/
theorem yields_expandCommand {command : Word} (isName : command.StandsFor name)
    (noDeclarer : IsNoDeclarer name) (stands : List.Forall₂ Word.StandsFor words texts) :
    Yields (expandCommand means [] (command :: words)) session (name :: texts) session := by
  rw [expandCommand]
  simp only [no_assignment [] rfl, List.isEmpty_nil, true_or, if_true]
  rw [Yields, bind_of_yields (yields_expandWords means session isName), List.nil_append,
    bind_of_yields (yields_expandArguments noDeclarer stands)]
  rfl

end

end ShellSmoke.Shell
