/-
This file proves that the readers of options lose no operands and need no more steps than there are
words. An option takes words only from the front of those after it. So the operands are words that
were given, in the order in which they were given, and where options come first they are the last
ones.
-/

import ShellSmoke.Tools.Options

namespace ShellSmoke.Tools.OptionTable

variable (table : OptionTable)

/-! ### Options -/

theorem isSuffix_wishOfEntry (entry : OptionEntry String) (attached : Option Bytes)
    (rest : List Bytes) : (wishOfEntry entry attached rest).2 <:+ rest := by
  unfold wishOfEntry
  split
  · exact List.suffix_rfl
  · exact List.suffix_cons _ _
  · exact List.suffix_rfl
  · exact List.suffix_rfl

/-- An option by its name takes at most words from the front. -/
theorem isSuffix_readName (text : Bytes) (rest : List Bytes) :
    (table.readName text rest).2 <:+ rest := by
  unfold readName
  dsimp only
  split
  · exact List.suffix_rfl
  · split
    · exact isSuffix_wishOfEntry _ _ rest
    · exact List.suffix_rfl

/-- Options by their letters take at most words from the front. -/
theorem isSuffix_readLetters (rest : List Bytes) (letters : Bytes) :
    (table.readLetters rest letters).2 <:+ rest := by
  induction letters with
  | nil => exact List.suffix_rfl
  | cons letter more inductionHypothesis =>
    unfold readLetters
    dsimp only
    split
    · exact inductionHypothesis
    · split
      · exact inductionHypothesis
      · split
        · exact List.suffix_rfl
        · split
          · exact List.suffix_cons _ _
          · exact List.suffix_rfl
      · exact List.suffix_rfl

/-! ### Words -/

/-- A count that is larger than the number of words is as good as any other. -/
theorem readWords_eq_of_lt (mixed : Bool) {count other : Nat} {words : List Bytes}
    (enough : words.length < count) (alsoEnough : words.length < other) :
    table.readWords mixed count words = table.readWords mixed other words := by
  induction count generalizing other words with
  | zero => cases enough
  | succ count inductionHypothesis =>
    obtain _ | other := other
    · cases alsoEnough
    obtain _ | ⟨word, rest⟩ := words
    · rfl
    have same {later : List Bytes} (suffix : later <:+ rest) :
        table.readWords mixed count later = table.readWords mixed other later := by
      have shorter := suffix.length_le
      rw [List.length_cons] at enough alsoEnough
      exact inductionHypothesis (by omega) (by omega)
    unfold readWords
    dsimp only
    rw [same (isSuffix_readName table _ rest), same (isSuffix_readLetters table rest _),
      same List.suffix_rfl]

/-- The operands are words that were given, in their order. -/
theorem sublist_readWords (mixed : Bool) (count : Nat) (words : List Bytes) :
    (table.readWords mixed count words).2.Sublist words := by
  induction count generalizing words with
  | zero => exact List.Sublist.refl words
  | succ count inductionHypothesis =>
    obtain _ | ⟨word, rest⟩ := words
    · exact List.Sublist.refl []
    have later {words : List Bytes} (suffix : words <:+ rest) :
        (table.readWords mixed count words).2.Sublist (word :: rest) :=
      ((inductionHypothesis words).trans suffix.sublist).trans (List.sublist_cons_self _ _)
    unfold readWords
    dsimp only
    split
    · exact List.sublist_cons_self _ _
    split
    · exact later (isSuffix_readName table _ rest)
    split
    · exact later (isSuffix_readLetters table rest _)
    split
    · exact (inductionHypothesis rest).cons_cons word
    · exact List.Sublist.refl _

/-- Where options come first, the operands are the last of the words. -/
theorem isSuffix_readWords (count : Nat) (words : List Bytes) :
    (table.readWords false count words).2 <:+ words := by
  induction count generalizing words with
  | zero => exact List.suffix_rfl
  | succ count inductionHypothesis =>
    obtain _ | ⟨word, rest⟩ := words
    · exact List.suffix_rfl
    have later {words : List Bytes} (suffix : words <:+ rest) :
        (table.readWords false count words).2 <:+ word :: rest :=
      ((inductionHypothesis words).trans suffix).trans (List.suffix_cons _ _)
    unfold readWords
    dsimp only
    split
    · exact List.suffix_cons _ _
    split
    · exact later (isSuffix_readName table _ rest)
    split
    · exact later (isSuffix_readLetters table rest _)
    split
    · contradiction
    · exact List.suffix_rfl

/-- What words ask for does not depend on how many steps are allowed, and the operands among them are
as they were given: all in order, and the last ones where options come first. -/
theorem read_keepsOperands (mixed : Bool) (words : List Bytes) :
    (∀ count, words.length < count → table.readWords mixed count words = table.read mixed words) ∧
      (table.read mixed words).2.Sublist words ∧
      (mixed = false → (table.read mixed words).2 <:+ words) :=
  ⟨fun _ enough => table.readWords_eq_of_lt mixed enough (Nat.lt_succ_self _),
    table.sublist_readWords mixed _ words,
    fun first => first ▸ table.isSuffix_readWords _ words⟩

end ShellSmoke.Tools.OptionTable
