/-
This file proves that the shell reads a text again that it printed between quotation marks: as a
word of which nothing is special, and whose parts make up the text. The text is cut into runs of
single quotes and of other characters, each run is one quotation, and the quotations follow one
another in one word.
-/

import Mathlib.Data.List.SplitBy
import ShellSmoke.Proofs.Shell.Reading
import ShellSmoke.Shell.Builtin

namespace ShellSmoke.Shell

/-! ### Quotations of runs -/

/-- A run between the quotation marks that keep it as it is. -/
def quotation (run : Octets) : Octets :=
  let mark := if run.any fun char => char = '\x27' then '\x22' else '\x27'
  mark :: run ++ [mark]

/-- Whether a text is a run of single quotes, or holds none. -/
def IsRun (run : Octets) : Prop :=
  (∀ char ∈ run, char ≠ '\x27') ∨ run ≠ [] ∧ ∀ char ∈ run, char = '\x27'

/-- The parts of a text that are quoted one by one. -/
def quotedParts (text : Octets) : List Octets :=
  let isQuote (char : Char) : Bool := char = '\x27'
  (if text.head?.all isQuote then [[]] else []) ++
    text.splitBy fun left right => isQuote left == isQuote right

theorem quotedText_eq (text : Octets) : quotedText text = (quotedParts text).flatMap quotation := by
  unfold quotedText quotedParts
  by_cases opens : text.head?.all (fun char => decide (char = '\x27')) = true
  all_goals
    simp only [opens, if_true, if_false, Bool.false_eq_true, List.flatMap_append]
    rfl

theorem flatten_quotedParts (text : Octets) : (quotedParts text).flatten = text := by
  unfold quotedParts
  rw [List.flatten_append, List.flatten_splitBy]
  split <;> rfl

theorem quotedParts_ne_nil (text : Octets) : quotedParts text ≠ [] := by
  intro none
  have flatten := flatten_quotedParts text
  rw [none, List.flatten_nil] at flatten
  subst flatten
  cases none

theorem length_le_quotations (parts : List Octets) :
    parts.length ≤ (parts.flatMap quotation).length := by
  induction parts with
  | nil => exact Nat.le_refl 0
  | cons part parts ih =>
    rw [List.flatMap_cons, List.length_append, List.length_cons, Nat.add_comm]
    exact Nat.add_le_add (Nat.succ_le_succ (Nat.zero_le _)) ih

/-- The characters of a run are alike. -/
theorem eq_quote_iff_of_isChain {first : Char} {run : Octets}
    (chain : (first :: run).IsChain fun left right =>
      (decide (left = '\x27') == decide (right = '\x27')) = true) :
    ∀ char ∈ first :: run, char = '\x27' ↔ first = '\x27' := by
  induction run generalizing first with
  | nil => simp
  | cons second run ih =>
    obtain ⟨alike, chain⟩ := List.isChain_cons_cons.mp chain
    intro char mem
    rcases List.mem_cons.mp mem with rfl | mem
    · exact Iff.rfl
    · have same : first = '\x27' ↔ second = '\x27' := by simpa using alike
      exact (ih chain char mem).trans same.symm

theorem isRun_of_mem_splitBy {text run : Octets}
    (mem : run ∈ text.splitBy fun left right =>
      decide (left = '\x27') == decide (right = '\x27')) : IsRun run := by
  have chain := List.isChain_of_mem_splitBy mem
  cases run with
  | nil => exact absurd rfl (List.ne_nil_of_mem_splitBy mem)
  | cons first run =>
    have alike := eq_quote_iff_of_isChain chain
    by_cases isQuote : first = '\x27'
    · exact .inr ⟨List.cons_ne_nil _ _, fun char mem => (alike char mem).mpr isQuote⟩
    · exact .inl fun char mem => mt (alike char mem).mp isQuote

theorem isRun_of_mem_quotedParts {text part : Octets} (mem : part ∈ quotedParts text) :
    IsRun part := by
  unfold quotedParts at mem
  rcases List.mem_append.mp mem with mem | mem
  · split at mem
    · rw [List.mem_singleton.mp mem]
      exact .inl (List.forall_mem_nil _)
    · cases mem
  · exact isRun_of_mem_splitBy mem

/-! ### Reading quotations -/

variable {cursor : Cursor} {char stop : Char} {run rest : Octets}

/-- Within double quotes, single quotes stand for themselves. -/
theorem holds_quotes (quotes : ∀ char ∈ run, char = '\x27') :
    Setting.word.quotes.Holds '\x22' run := by
  refine Setting.holds_of_leaves fun char mem => ?_
  rw [quotes char mem]
  exact leaves_quotes (by decide) (by decide)

/-- A quotation is one part of a word. -/
theorem textStep_of_quotation {depth : Nat} (isRun : IsRun run)
    (bytes : ∀ char ∈ run, isAliasEnd char = false) (short : run.length < Reader.stepLimit)
    (draft : Draft) (rest_eq : cursor.rest = quotation run ++ rest)
    (outside : cursor.inside = none) :
    textStep (nestedAt (depth + 1)) .word draft cursor =
      .ok (.inl (draft.add (.grouped [.plain run])), cursor.past (quotation run) rest) := by
  unfold quotation at rest_eq ⊢
  rcases isRun with others | ⟨nonempty, quotes⟩
  · have mark : run.any (fun char => decide (char = '\x27')) = false := by simpa using others
    rw [mark] at rest_eq ⊢
    refine textStep_of_singleQuotes rfl rfl (fun char mem => ⟨bytes char mem, others char mem⟩)
      short draft ⟨?_, outside⟩
    simpa using rest_eq
  · have mark : run.any (fun char => decide (char = '\x27')) = true := by
      obtain ⟨char, mem⟩ := List.exists_mem_of_ne_nil run nonempty
      exact List.any_eq_true.mpr ⟨char, mem, by simpa using quotes char mem⟩
    rw [mark] at rest_eq ⊢
    have faces : cursor.Faces ('\x22' :: run) '\x22' rest := ⟨by simpa using rest_eq, outside⟩
    have read := textStep_of_doubleQuotes depth rfl rfl (holds_quotes quotes) short draft faces
    rwa [plainWord, if_neg (by simpa using nonempty)] at read

/-- The word that quotations make up. -/
def quotedWord (parts : List Octets) : Word := parts.map fun part => .grouped [.plain part]

theorem steps_of_quotations (depth : Nat) (parts : List Octets) (fragments : List Fragment)
    (runs : ∀ part ∈ parts, IsRun part ∧ (∀ char ∈ part, isAliasEnd char = false) ∧
      part.length < Reader.stepLimit)
    (rest_eq : cursor.rest = parts.flatMap quotation ++ rest) (outside : cursor.inside = none) :
    Reader.Steps (textStep (nestedAt (depth + 1)) .word) parts.length (⟨fragments, [], 0⟩, cursor)
      (⟨(quotedWord parts).reverse ++ fragments, [], 0⟩,
        cursor.past (parts.flatMap quotation) rest) := by
  induction parts generalizing cursor fragments with
  | nil =>
    have same : cursor.past [] rest = cursor := by
      rw [← show cursor.rest = rest from rest_eq, Cursor.past_nil]
    rw [List.flatMap_nil, same]
    exact .none _
  | cons part parts ih =>
    obtain ⟨⟨isRun, bytes, short⟩, others⟩ := List.forall_mem_cons.mp runs
    rw [List.flatMap_cons, List.append_assoc] at rest_eq
    refine .one (textStep_of_quotation isRun bytes short ⟨fragments, [], 0⟩ rest_eq outside) ?_
    have later := ih (.grouped [.plain part] :: fragments) others
      (Cursor.rest_past cursor (quotation part) _) ((Cursor.inside_past _ _ _).trans outside)
    have added : Draft.add ⟨fragments, [], 0⟩ (.grouped [.plain part]) =
        ⟨.grouped [.plain part] :: fragments, [], 0⟩ := rfl
    rw [Cursor.past_append] at later
    rw [added]
    simpa [quotedWord] using later

/-- What the shell prints between quotation marks it reads as a word of the parts of the text, of
which nothing is special. -/
theorem readsAs_quotedText {text : Octets} (bytes : ∀ char ∈ text, isAliasEnd char = false)
    (short : (quotedText text).length < Reader.stepLimit) :
    ReadsAs (quotedText text) (quotedWord (quotedParts text)) := by
  intro depth cursor stop rest faces plain ends
  have part_le (part : Octets) (mem : part ∈ quotedParts text) :
      part.length ≤ (quotedText text).length := by
    obtain ⟨before, after, eq⟩ := List.append_of_mem mem
    rw [quotedText_eq, eq]
    simp [quotation]
    omega
  have runs : ∀ part ∈ quotedParts text, IsRun part ∧ (∀ char ∈ part, isAliasEnd char = false) ∧
      part.length < Reader.stepLimit := by
    intro part mem
    refine ⟨isRun_of_mem_quotedParts mem, fun char inPart => bytes char ?_,
      Nat.lt_of_le_of_lt (part_le part mem) short⟩
    rw [← flatten_quotedParts text]
    exact List.mem_flatten_of_mem mem inPart
  rw [quotedText_eq] at faces short ⊢
  have few := Nat.lt_of_le_of_lt (length_le_quotations (quotedParts text)) short
  have steps := steps_of_quotations depth (quotedParts text) [] runs faces.rest_eq
    faces.outside
  rw [List.append_nil] at steps
  refine Reader.iterate_of_steps steps few ?_
  rw [textStep_of_isMeta faces.shows_past plain ends, List.reverse_reverse]

end ShellSmoke.Shell
