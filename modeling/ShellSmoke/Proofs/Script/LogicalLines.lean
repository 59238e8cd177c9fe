/-
This file proves the law of the logical lines of a script. Taking the continuations out of a text
leaves just the newlines that do not come straight after a backslash, so the logical lines of a text
are those newlines, and one more if what is left does not end in one. A script ends each of its
entries with a newline, so it has two lines a case, and besides those that the texts of the cases
break themselves. A case that ends in a backslash loses the newline after it and is joined to the
label of the next; only what is left of a last case that ends so is a line of its own.
-/

import Mathlib.Algebra.GroupWithZero.Nat
import Mathlib.Data.List.Induction
import ShellSmoke.Proofs.Script
import ShellSmoke.Script.LogicalLines

namespace ShellSmoke

namespace Script

/-! ### Deletion of continuations -/

theorem go_append (kept more text : List Char) :
    joinLines.go (kept ++ more) text = more.reverse ++ joinLines.go kept text := by
  fun_induction joinLines.go kept text with
  | case1 kept => exact List.reverse_append
  | case2 kept rest inductionHypothesis => exact inductionHypothesis
  | case3 kept char rest notPair inductionHypothesis =>
    rw [joinLines.go]
    · exact inductionHypothesis
    · exact notPair

theorem joinLines_pair (rest : List Char) : joinLines ('\\' :: '\n' :: rest) = joinLines rest := rfl

theorem joinLines_cons {char : Char} {rest : List Char}
    (notPair : char = '\\' → rest.head? ≠ some '\n') :
    joinLines (char :: rest) = char :: joinLines rest := by
  unfold joinLines
  rw [joinLines.go]
  · exact go_append [] [char] rest
  · rintro later same rfl
    exact notPair same rfl

/-- The induction along the deletion of continuations: a text is empty, or begins with a pair that
goes, or begins with a character that stays. -/
theorem joinLines_induction {motive : List Char → Prop} (nil : motive [])
    (pair : ∀ rest, motive rest → motive ('\\' :: '\n' :: rest))
    (cons : ∀ char rest, (char = '\\' → rest.head? ≠ some '\n') → motive rest →
      motive (char :: rest))
    (text : List Char) : motive text := by
  refine joinLines.go.induct (fun _ text => motive text) (fun _ => nil) (fun _ => pair) ?_ [] text
  intro _ char rest notPair holds
  refine cons char rest (fun same head => ?_) holds
  obtain ⟨later, rfl⟩ := List.head?_eq_some_iff.mp head
  exact notPair later same rfl

/-- Continuations are taken out of two texts each on its own unless one lies across the cut. -/
theorem joinLines_append {first second : List Char}
    (apart : first.getLast? = some '\\' → second.head? ≠ some '\n') :
    joinLines (first ++ second) = joinLines first ++ joinLines second := by
  induction first using joinLines_induction with
  | nil => rfl
  | pair rest inductionHypothesis =>
    refine inductionHypothesis fun last => apart ?_
    rw [List.getLast?_cons, List.getLast?_cons, last]
    rfl
  | cons char rest notPair inductionHypothesis =>
    have later : joinLines (rest ++ second) = joinLines rest ++ joinLines second := by
      refine inductionHypothesis fun last => apart ?_
      rw [List.getLast?_cons, last]
      rfl
    rw [List.cons_append, joinLines_cons, joinLines_cons notPair, later, List.cons_append]
    intro same
    cases rest with
    | nil => exact apart (congrArg some same)
    | cons next others => exact notPair same

/-- A newline that does not come straight after a backslash stays. -/
theorem joinLines_append_newline {first : List Char} (second : List Char)
    (free : first.getLast? ≠ some '\\') :
    joinLines (first ++ '\n' :: second) = joinLines first ++ '\n' :: joinLines second := by
  rw [joinLines_append fun last => absurd last free, joinLines_cons]
  rintro ⟨⟩

/-! ### Free newlines -/

/-- The character before a text only matters to a newline that the text begins with. -/
theorem freeNewlines_of_head? {text : List Char} (continued : Bool)
    (other : text.head? ≠ some '\n') : freeNewlines continued text = freeNewlines false text := by
  cases text with
  | nil => rfl
  | cons char rest =>
    have notNewline : char ≠ '\n' := fun same => other (congrArg some same)
    simp only [freeNewlines, notNewline, false_and]

theorem freeNewlines_eq_zero {text : List Char} (none : '\n' ∉ text) (continued : Bool) :
    freeNewlines continued text = 0 := by
  induction text generalizing continued with
  | nil => rfl
  | cons char rest inductionHypothesis =>
    rw [List.mem_cons, not_or] at none
    rw [freeNewlines, inductionHypothesis none.2, if_neg fun newline => none.1 newline.1.symm]

/-- Free newlines are counted in two texts each on its own, but for a newline at the cut. -/
theorem freeNewlines_append (continued : Bool) (first second : List Char) :
    freeNewlines continued (first ++ second) = freeNewlines continued first +
      freeNewlines ((first.getLast?.map fun last => decide (last = '\\')).getD continued)
        second := by
  induction first generalizing continued with
  | nil => exact (Nat.zero_add _).symm
  | cons char rest inductionHypothesis =>
    have last : ((char :: rest).getLast?.map fun last => decide (last = '\\')).getD continued =
        (rest.getLast?.map fun last => decide (last = '\\')).getD (decide (char = '\\')) := by
      rw [List.getLast?_cons]
      cases rest.getLast? <;> rfl
    rw [List.cons_append, freeNewlines, freeNewlines, inductionHypothesis, last, Nat.add_assoc]

/-- The newlines that are left of a text without its continuations are the free ones. -/
theorem count_joinLines (text : List Char) :
    (joinLines text).count '\n' = freeNewlines false text := by
  induction text using joinLines_induction with
  | nil => rfl
  | pair rest inductionHypothesis =>
    show (joinLines rest).count '\n' = 0 + (0 + freeNewlines false rest)
    rw [inductionHypothesis, Nat.zero_add, Nat.zero_add]
  | cons char rest notPair inductionHypothesis =>
    have later : freeNewlines (decide (char = '\\')) rest = freeNewlines false rest := by
      by_cases same : char = '\\'
      · exact freeNewlines_of_head? _ (notPair same)
      · rw [decide_eq_false same]
    rw [joinLines_cons notPair, List.count_cons, inductionHypothesis, freeNewlines, later,
      Nat.add_comm]
    simp

/-! ### Unfinished lines -/

/-- Whether a text has something after its last newline. -/
def IsUnfinished (text : List Char) : Prop := text ≠ [] ∧ text.getLast? ≠ some '\n'

instance (text : List Char) : Decidable (IsUnfinished text) := instDecidableAnd

theorem isUnfinished_append_newline (first second : List Char) :
    IsUnfinished (first ++ '\n' :: second) ↔ IsUnfinished second := by
  have last : (first ++ '\n' :: second).getLast? = some (second.getLast?.getD '\n') := by
    rw [List.getLast?_append, List.getLast?_cons]
    rfl
  unfold IsUnfinished
  rw [last, and_iff_right (List.append_ne_nil_of_right_ne_nil _ (List.cons_ne_nil _ _))]
  cases second with
  | nil => exact iff_of_false (fun other => other rfl) fun unfinished => unfinished.1 rfl
  | cons char rest =>
    rw [and_iff_right (List.cons_ne_nil char rest), List.getLast?_cons]
    rfl

theorem countLines_eq (text : List Char) :
    countLines text = text.count '\n' + if IsUnfinished text then 1 else 0 := by
  rcases List.eq_nil_or_concat' text with rfl | ⟨front, last, rfl⟩
  · rfl
  have some : front ++ [last] ≠ [] := List.append_ne_nil_of_right_ne_nil _ (List.cons_ne_nil _ _)
  simp only [countLines, IsUnfinished, List.getLast?_concat]
  by_cases newline : last = '\n'
  · rw [if_pos newline, if_neg fun unfinished => unfinished.2 (congrArg _ newline), Nat.add_zero]
  · rw [if_neg newline, if_pos ⟨some, fun same => newline (Option.some.inj same)⟩]

/-- The logical lines of a text are its free newlines, and one more if what is left of it without
its continuations does not end in a newline. -/
theorem logicalLineCount_eq (text : String) :
    logicalLineCount text = freeNewlines false text.toList +
      if IsUnfinished (joinLines text.toList) then 1 else 0 := by
  rw [logicalLineCount, countLines_eq, count_joinLines]

/-! ### Entries -/

/-- An entry brings its own free newlines, and the one after it unless it ends in a backslash. -/
theorem freeNewlines_append_newline (entry rest : List Char) :
    freeNewlines false (entry ++ '\n' :: rest) = freeNewlines false entry +
      (if entry.getLast? = some '\\' then 0 else 1) + freeNewlines false rest := by
  rw [freeNewlines_append, freeNewlines, Nat.add_assoc]
  cases last : entry.getLast? with
  | none => simp
  | some char => by_cases same : char = '\\' <;> simp [same]

/-- An entry leaves an unfinished line before its end if it ends in a backslash and there is
something on its last line without that. -/
theorem isUnfinished_entry (entry : List Char) :
    IsUnfinished (joinLines (entry ++ ['\n'])) ↔
      entry.getLast? = some '\\' ∧ IsUnfinished (joinLines entry.dropLast) := by
  by_cases continued : entry.getLast? = some '\\'
  · rw [and_iff_right continued]
    obtain ⟨left, rfl⟩ := List.getLast?_eq_some_iff.mp continued
    have apart : joinLines (left ++ ['\\', '\n']) = joinLines left ++ joinLines ['\\', '\n'] :=
      joinLines_append fun _ => by decide
    rw [List.append_assoc, List.singleton_append, apart, joinLines_pair, List.dropLast_concat]
    exact iff_of_eq (congrArg IsUnfinished (List.append_nil _))
  · rw [joinLines_append_newline [] continued, isUnfinished_append_newline]
    exact iff_of_false (fun unfinished => unfinished.1 rfl) fun both => continued both.1

/-! ### Cases -/

/-- Each case brings the newline after its label and those of its own entry. -/
theorem freeNewlines_blocks (number : Nat → Nat) (cases : List Case) :
    freeNewlines false
        ((cases.mapIdx fun place case => block (number place) case).flatMap String.toList) +
      cases.countP (fun case => case.command.toList.getLast? = some '\\') =
    2 * cases.length + (cases.map fun case => freeNewlines false case.command.toList).sum := by
  induction cases generalizing number with
  | nil => rfl
  | cons case cases inductionHypothesis =>
    have later := inductionHypothesis fun place => number (place + 1)
    have labelNewline : (labelLine (number 0)).toList.getLast? ≠ some '\\' := by
      rw [getLast?_labelLine]
      decide
    rw [flatMap_block_cons, freeNewlines_append_newline, freeNewlines_append_newline,
      freeNewlines_eq_zero (newline_notMem_labelLine _), if_neg labelNewline, List.countP_cons,
      List.map_cons, List.sum_cons, List.length_cons]
    by_cases continued : case.command.toList.getLast? = some '\\'
    · rw [if_pos continued, if_pos (decide_eq_true continued)]
      omega
    · rw [if_neg continued, if_neg (ne_true_of_eq_false (decide_eq_false continued))]
      omega

/-- Whether the last case of a suite ends in a backslash, and what is left of its text without that
and without continuations has something after its last newline. -/
def EndsUnfinished (suite : Suite) : Prop :=
  ∃ last ∈ suite.cases.getLast?, last.command.toList.getLast? = some '\\' ∧
    IsUnfinished (joinLines last.command.toList.dropLast)

instance (suite : Suite) : Decidable (EndsUnfinished suite) :=
  inferInstanceAs (Decidable (∃ last ∈ suite.cases.getLast?, _))

theorem isUnfinished_render (suite : Suite) :
    IsUnfinished (joinLines (compose suite).render.toList) ↔ EndsUnfinished suite := by
  rw [render_compose, String.toList_join]
  unfold EndsUnfinished
  rcases List.eq_nil_or_concat' suite.cases with none | ⟨earlier, last, split⟩
  · rw [none]
    exact iff_of_false (fun unfinished => unfinished.1 rfl) nofun
  · rw [split, List.mapIdx_concat, List.flatMap_append, List.flatMap_singleton, toList_block,
      ← List.append_assoc, joinLines_append_newline, isUnfinished_append_newline,
      isUnfinished_entry, List.getLast?_concat]
    · simp
    · rw [List.getLast?_append, getLast?_labelLine]
      show some '"' ≠ some '\\'
      decide

/-! ### Suites -/

/-- Whether every newline in the text of a case continues a line, and the text does not end in a
backslash. -/
structure IsJoined (case : Case) : Prop where
  continues : ∀ before after, case.command.toList = before ++ '\n' :: after →
    before.getLast? = some '\\'
  ends : case.command.toList.getLast? ≠ some '\\'

/-- A text has no free newlines exactly if each of its newlines comes straight after a
backslash. -/
theorem freeNewlines_eq_zero_iff (text : List Char) :
    freeNewlines false text = 0 ↔
      ∀ before after, text = before ++ '\n' :: after → before.getLast? = some '\\' := by
  constructor
  · rintro zero before after rfl
    rw [freeNewlines_append_newline] at zero
    by_contra free
    rw [if_neg free] at zero
    omega
  · intro continues
    induction text using List.reverseRecOn with
    | nil => rfl
    | append_singleton front last inductionHypothesis =>
      have front_zero : freeNewlines false front = 0 :=
        inductionHypothesis fun before after split =>
          continues before (after ++ [last]) (by rw [split, List.append_assoc, List.cons_append])
      by_cases newline : last = '\n'
      · subst newline
        rw [freeNewlines_append_newline, front_zero, if_pos (continues front [] rfl)]
        rfl
      · have notNewline : [last].head? ≠ some '\n' := fun same => newline (Option.some.inj same)
        rw [freeNewlines_append, front_zero, freeNewlines_of_head? _ notNewline,
          freeNewlines_eq_zero fun member => newline (List.mem_singleton.mp member).symm]

theorem isJoined_iff (case : Case) :
    IsJoined case ↔ freeNewlines false case.command.toList = 0 ∧
      case.command.toList.getLast? ≠ some '\\' := by
  rw [freeNewlines_eq_zero_iff]
  exact ⟨fun joined => ⟨joined.continues, joined.ends⟩, fun both => ⟨both.1, both.2⟩⟩

instance (case : Case) : Decidable (IsJoined case) := decidable_of_iff _ (isJoined_iff case).symm

theorem length_entries_compose (suite : Suite) :
    (compose suite).entries.length = 2 * suite.size := by
  have pairs (numbered : Nat × Case) : (entriesOf numbered.1 numbered.2).length = 2 := rfl
  simp [compose, List.length_flatMap, pairs, Suite.numbered, Suite.size, Function.comp_def,
    Nat.mul_comm]

/-- The logical lines of a script, case by case. -/
theorem logicalLineCount_add_countP (suite : Suite) :
    logicalLineCount (compose suite).render +
        suite.cases.countP (fun case => case.command.toList.getLast? = some '\\') =
      2 * suite.size + (suite.cases.map fun case => freeNewlines false case.command.toList).sum +
        if EndsUnfinished suite then 1 else 0 := by
  have blocks := freeNewlines_blocks (· + 1) suite.cases
  rw [← String.toList_join, ← render_compose] at blocks
  rw [logicalLineCount_eq, Nat.add_right_comm, blocks, Suite.size]
  simp only [isUnfinished_render]

/-- Cases that only break lines by continuing them have nothing to add to their two lines. -/
theorem logicalLineCount_of_isJoined {suite : Suite}
    (joined : ∀ case ∈ suite.cases, IsJoined case) :
    logicalLineCount (compose suite).render = 2 * suite.size := by
  have counted := logicalLineCount_add_countP suite
  have noFree : (suite.cases.map fun case => freeNewlines false case.command.toList).sum = 0 := by
    refine List.sum_eq_zero_iff_forall_eq_nat.mpr fun count member => ?_
    obtain ⟨case, inSuite, rfl⟩ := List.mem_map.mp member
    exact ((isJoined_iff case).mp (joined case inSuite)).1
  have noBackslash :
      suite.cases.countP (fun case => case.command.toList.getLast? = some '\\') = 0 :=
    List.countP_eq_zero.mpr fun case inSuite last =>
      (joined case inSuite).ends (of_decide_eq_true last)
  have finished : ¬ EndsUnfinished suite := fun ⟨last, isLast, backslash, _⟩ =>
    (joined last (List.mem_of_getLast? isLast)).ends backslash
  rw [noFree, noBackslash, if_neg finished] at counted
  exact counted

/-- A script has two logical lines a case, and besides one for each newline in a case that does not
come straight after a backslash, less one for each case that ends in a backslash, and one more for
a last case that ends so and leaves something before that on its last line. If every newline in a
case comes straight after a backslash and no case ends in one, as is so of the built-in suite, the
logical lines are as many as the entries, which are two a case. -/
theorem logicalLineCount_compose (suite : Suite) :
    (logicalLineCount (compose suite).render : Int) =
        2 * suite.size + (suite.cases.map fun case => freeNewlines false case.command.toList).sum -
          suite.cases.countP (fun case => case.command.toList.getLast? = some '\\') +
          (if EndsUnfinished suite then 1 else 0) ∧
    ((∀ case ∈ suite.cases, IsJoined case) →
      logicalLineCount (compose suite).render = 2 * suite.size ∧
        (compose suite).entries.length = 2 * suite.size) ∧
    ∀ case ∈ Suite.smoke.cases, IsJoined case := by
  refine ⟨?_, fun joined => ⟨logicalLineCount_of_isJoined joined, length_entries_compose suite⟩,
    by decide +kernel⟩
  have counted := logicalLineCount_add_countP suite
  by_cases unfinished : EndsUnfinished suite
  · rw [if_pos unfinished] at counted ⊢
    omega
  · rw [if_neg unfinished] at counted ⊢
    omega

/-- A case that begins with an empty line and ends in a backslash, and a last case that ends in
one. -/
def trailing : Suite := ⟨[⟨"\n\\"⟩, ⟨"x\\"⟩]⟩

/-- A continued line and an empty case. -/
def continuing : Suite := ⟨[⟨"a\\\nb"⟩, ⟨""⟩]⟩

theorem logicalLineCount_compose_trailing :
    (logicalLineCount (compose trailing).render : Int) = 2 * 2 + 1 - 2 + 1 ∧
      (∀ case ∈ continuing.cases, IsJoined case) ∧
      logicalLineCount (compose continuing).render = 2 * 2 := by
  have joined : ∀ case ∈ continuing.cases, IsJoined case := by decide
  exact ⟨(logicalLineCount_compose trailing).1, joined,
    ((logicalLineCount_compose continuing).2.1 joined).1⟩

end Script

end ShellSmoke
