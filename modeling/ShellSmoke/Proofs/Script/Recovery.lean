/-
This file proves that the script of a suite can be read back test by test. The lines of a script are
the lines of its cases, with the line that prints a label before those of each. A cut is made at the
first line that prints the label of the next test, and what was cut off holds no such line; so the
cuts fall just between the cases if no case holds the line that prints the label of the test after
it. The text of a case is its lines again with a newline between two of them, wherever it begins or
ends with a newline. Suites of that sort therefore differ if and only if their scripts do.
-/

import ShellSmoke.Proofs.Script
import ShellSmoke.Script.Recovery

namespace ShellSmoke.Script

/-! ### Lines -/

theorem linesOf_cons (char : Char) (rest : List Char) :
    linesOf (char :: rest) =
      if char = '\n' then [] :: linesOf rest else (linesOf rest).modifyHead (char :: ·) := by
  have some : linesOf rest ≠ [] := by
    cases rest with
    | nil => exact List.cons_ne_nil _ _
    | cons next others =>
      rw [linesOf]
      split
      · exact List.cons_ne_nil _ _
      · split <;> exact List.cons_ne_nil _ _
  rw [linesOf]
  cases lines : linesOf rest with
  | nil => exact absurd lines some
  | cons line others => rfl

theorem linesOf_eq_splitOn (text : List Char) : linesOf text = text.splitOn '\n' := by
  induction text with
  | nil => rfl
  | cons char rest inductionHypothesis =>
    rw [linesOf_cons, inductionHypothesis, List.splitOn_eq_splitOnP, List.splitOn_eq_splitOnP,
      List.splitOnP_cons_eq_if_modifyHead]
    simp only [beq_iff_eq]

theorem linesOf_append_newline (first second : List Char) :
    linesOf (first ++ '\n' :: second) = linesOf first ++ linesOf second := by
  simp only [linesOf_eq_splitOn, List.splitOn_eq_splitOnP]
  exact List.splitOnP_append_cons first second (beq_self_eq_true '\n')

theorem linesOf_of_notMem {text : List Char} (none : '\n' ∉ text) : linesOf text = [text] := by
  rw [linesOf_eq_splitOn, List.splitOn_eq_splitOnP]
  refine List.splitOnP_eq_singleton fun char member => ?_
  rw [beq_eq_false_iff_ne]
  rintro rfl
  exact none member

theorem newline_notMem_of_mem_linesOf {text line : List Char} (member : line ∈ linesOf text) :
    '\n' ∉ line := by
  induction text generalizing line with
  | nil =>
    rw [List.mem_singleton.mp member]
    exact List.not_mem_nil
  | cons char rest inductionHypothesis =>
    rw [linesOf_cons] at member
    split at member
    · rcases List.mem_cons.mp member with rfl | later
      · exact List.not_mem_nil
      · exact inductionHypothesis later
    · rename_i other
      cases lines : linesOf rest with
      | nil =>
        rw [lines] at member
        cases member
      | cons first others =>
        rw [lines] at member inductionHypothesis
        rcases List.mem_cons.mp member with rfl | later
        · rw [List.mem_cons, not_or]
          exact ⟨Ne.symm other, inductionHypothesis List.mem_cons_self⟩
        · exact inductionHypothesis (List.mem_cons_of_mem _ later)

theorem linesOf_intercalate {lines : List (List Char)} (some : lines ≠ [])
    (noNewline : ∀ line ∈ lines, '\n' ∉ line) :
    linesOf (List.intercalate ['\n'] lines) = lines := by
  rw [linesOf_eq_splitOn]
  exact List.splitOn_intercalate '\n' noNewline some

/-- The lines of a case make up the case. -/
theorem caseOf_linesOf (case : Case) : caseOf (linesOf case.command.toList) = case := by
  rw [caseOf, linesOf_eq_splitOn, List.intercalate_splitOn, String.ofList_toList]

/-! ### The lines of a script -/

/-- The lines of cases that are numbered from some number on, with the line that prints its label
before those of each. -/
def labelledLines (number : Nat) : List Case → List (List Char)
  | [] => []
  | case :: cases =>
    (labelLine number).toList :: (linesOf case.command.toList ++ labelledLines (number + 1) cases)

theorem linesOf_blocks (number : Nat) (cases : List Case) :
    linesOf ((cases.mapIdx fun place case => block (place + number) case).flatMap String.toList) =
      labelledLines number cases ++ [[]] := by
  induction cases generalizing number with
  | nil => rfl
  | cons case cases inductionHypothesis =>
    have later := inductionHypothesis (number + 1)
    simp only [← Nat.add_assoc, Nat.add_right_comm _ number 1] at later
    rw [flatMap_block_cons (· + number), linesOf_append_newline, linesOf_append_newline, later,
      linesOf_of_notMem (newline_notMem_labelLine _), Nat.zero_add, labelledLines,
      List.singleton_append, List.cons_append, List.append_assoc]

theorem linesOf_render (suite : Suite) :
    linesOf (compose suite).render.toList = labelledLines 1 suite.cases ++ [[]] := by
  rw [render_compose, String.toList_join]
  exact linesOf_blocks 1 suite.cases

/-! ### Cuts -/

/-- Whether each of some cases holds no line that prints the label of the test after it; `next` is
the number of the test after the first of them. -/
def SeparableFrom (next : Nat) : List Case → Prop
  | [] => True
  | case :: cases =>
    (labelLine next).toList ∉ linesOf case.command.toList ∧ SeparableFrom (next + 1) cases

theorem separableFrom_iff (number : Nat) (cases : List Case) :
    (∀ numbered ∈ (cases.zipIdx number).map fun (case, number) => (number, case),
      (labelLine (numbered.1 + 1)).toList ∉ linesOf numbered.2.command.toList) ↔
    SeparableFrom (number + 1) cases := by
  induction cases generalizing number with
  | nil => exact iff_of_true nofun trivial
  | cons case cases inductionHypothesis =>
    rw [List.zipIdx_cons, List.map_cons, List.forall_mem_cons, inductionHypothesis, SeparableFrom]

theorem separable_iff (suite : Suite) : Separable suite ↔ SeparableFrom 2 suite.cases :=
  separableFrom_iff 1 suite.cases

theorem cutCases_append {next : Nat} {lines : List (List Char)}
    (absent : (labelLine next).toList ∉ lines) (held rest : List (List Char)) :
    cutCases next held (lines ++ rest) = cutCases next (lines.reverse ++ held) rest := by
  induction lines generalizing held with
  | nil => rfl
  | cons line lines inductionHypothesis =>
    rw [List.mem_cons, not_or] at absent
    rw [List.cons_append, cutCases, if_neg (Ne.symm absent.1), inductionHypothesis absent.2,
      List.reverse_cons, List.append_assoc, List.singleton_append]

/-- Between labels that do not occur in the cases the cuts give the cases back. -/
theorem cutCases_labelledLines {next : Nat} {case : Case} {cases : List Case}
    (separable : SeparableFrom next (case :: cases)) :
    cutCases next [] (linesOf case.command.toList ++ labelledLines next cases) = case :: cases := by
  induction cases generalizing next case with
  | nil =>
    rw [cutCases_append separable.1, List.append_nil, labelledLines, cutCases, List.reverse_reverse,
      caseOf_linesOf]
  | cons second cases inductionHypothesis =>
    rw [cutCases_append separable.1, List.append_nil, labelledLines, cutCases, if_pos rfl,
      List.reverse_reverse, caseOf_linesOf, inductionHypothesis separable.2]

theorem notMem_linesOf_caseOf {line : List Char} {lines : List (List Char)} (some : line ≠ [])
    (absent : line ∉ lines) (noNewline : ∀ line ∈ lines, '\n' ∉ line) :
    line ∉ linesOf (caseOf lines).command.toList := by
  rw [caseOf, String.toList_ofList]
  by_cases none : lines = []
  · subst none
    exact fun member => some (List.mem_singleton.mp member)
  · rw [linesOf_intercalate none noNewline]
    exact absent

theorem labelLine_ne_nil (number : Nat) : (labelLine number).toList ≠ [] := by
  intro none
  have last := getLast?_labelLine number
  rw [none] at last
  cases last

/-- What the cuts give holds no line that prints the label of the test after it, whatever the lines
are. -/
theorem separableFrom_cutCases {next : Nat} {held lines : List (List Char)}
    (absent : (labelLine next).toList ∉ held) (heldLines : ∀ line ∈ held, '\n' ∉ line)
    (noNewline : ∀ line ∈ lines, '\n' ∉ line) :
    SeparableFrom next (cutCases next held lines) := by
  have cutOff {next : Nat} {held : List (List Char)} (absent : (labelLine next).toList ∉ held)
      (heldLines : ∀ line ∈ held, '\n' ∉ line) :
      (labelLine next).toList ∉ linesOf (caseOf held.reverse).command.toList :=
    notMem_linesOf_caseOf (labelLine_ne_nil next)
      (fun member => absent (List.mem_reverse.mp member))
      fun line member => heldLines line (List.mem_reverse.mp member)
  fun_induction cutCases next held lines with
  | case1 next held => exact ⟨cutOff absent heldLines, trivial⟩
  | case2 next held rest inductionHypothesis =>
    refine ⟨cutOff absent heldLines, inductionHypothesis List.not_mem_nil nofun ?_⟩
    exact fun line member => noNewline line (List.mem_cons_of_mem _ member)
  | case3 next held line rest other inductionHypothesis =>
    rw [List.forall_mem_cons] at noNewline
    refine inductionHypothesis ?_ (List.forall_mem_cons.mpr ⟨noNewline.1, heldLines⟩) noNewline.2
    rw [List.mem_cons, not_or]
    exact ⟨Ne.symm other, absent⟩

/-! ### Suites -/

/-- The script of a suite is read back as the suite if no case holds the line that prints the label
of the test after it. -/
theorem recover?_render {suite : Suite} (separable : Separable suite) :
    recover? (compose suite).render = some suite := by
  rw [separable_iff] at separable
  obtain ⟨cases⟩ := suite
  have lines := linesOf_render ⟨cases⟩
  cases cases with
  | nil => rfl
  | cons case cases =>
    rw [labelledLines, List.cons_append] at lines
    have some : (compose ⟨case :: cases⟩).render.isEmpty = false := by
      refine eq_false_of_ne_true fun empty => ?_
      rw [String.isEmpty_iff.mp empty] at lines
      exact labelLine_ne_nil 1 (List.cons.inj lines).1.symm
    rw [recover?, some, lines]
    dsimp only
    rw [if_neg Bool.false_ne_true, List.getLast?_concat, if_pos ⟨rfl, rfl⟩, List.dropLast_concat,
      cutCases_labelledLines separable]

/-- Whatever a text is read back as has no case that holds the line that prints the label of the
test after it. -/
theorem separable_of_recover? {text : String} {suite : Suite}
    (recovered : recover? text = some suite) : Separable suite := by
  rw [separable_iff]
  unfold recover? at recovered
  split at recovered
  · cases recovered
    exact trivial
  · split at recovered
    · cases recovered
    · rename_i line rest lines
      obtain ⟨_, same⟩ := Option.ite_none_right_eq_some.mp recovered
      cases same
      have noNewline (line : List Char) (member : line ∈ rest) : '\n' ∉ line :=
        newline_notMem_of_mem_linesOf (lines ▸ List.mem_cons_of_mem _ member)
      exact separableFrom_cutCases List.not_mem_nil nofun fun line member =>
        noNewline line (List.dropLast_subset rest member)

instance (suite : Suite) : Decidable (Separable suite) :=
  inferInstanceAs (Decidable (∀ numbered ∈ suite.numbered, _))

/-- A script is read back as the suite that it is of exactly if no case holds the line that prints
the label of the test after it. Two suites of that sort, of which the built-in suite is one, are the
same if their scripts are. -/
theorem recover?_render_iff (suite : Suite) :
    (recover? (compose suite).render = some suite ↔ Separable suite) ∧
    (∀ other, Separable suite → Separable other →
      (compose suite).render = (compose other).render → suite = other) ∧
    Separable Suite.smoke := by
  refine ⟨⟨separable_of_recover?, recover?_render⟩, fun other separable otherSeparable same => ?_,
    by decide +kernel⟩
  have recovered := recover?_render separable
  rw [same, recover?_render otherSeparable] at recovered
  exact (Option.some.inj recovered).symm

/-- Cases with empty lines at their edges, one of them empty. -/
def edged : Suite := ⟨[⟨"\na\n"⟩, ⟨""⟩, ⟨"\n"⟩]⟩

/-- A case that holds the line of another label than the next. -/
def quoting : Suite := ⟨[⟨"echo \"$> Test 3\""⟩]⟩

theorem recover?_render_iff_edged :
    Separable edged ∧ recover? (compose edged).render = some edged ∧ Separable quoting ∧
      (compose edged).render ≠ (compose quoting).render := by
  have separable : Separable edged := by decide
  have otherSeparable : Separable quoting := by decide
  obtain ⟨recovers, injective, _⟩ := recover?_render_iff edged
  exact ⟨separable, recovers.mpr separable, otherSeparable, fun same =>
    absurd (injective quoting separable otherSeparable same) (by decide)⟩

end ShellSmoke.Script
