/-
This file proves that logical lines can be counted in one pass over a text, without taking anything
out of it. A scanner has to remember what it would see without the backslash that came last, for a
newline after that takes it back. Since pairs are looked for in the text as it was, taking them out
is cutting the text at them. The count therefore adds up over texts that are cut after a free
newline, and a pair can be put in wherever it breaks up no other.
-/

import ShellSmoke.Proofs.Script.LogicalLines

namespace ShellSmoke

namespace Script

/-! ### The scanner -/

/-- What a scanner knows between two characters: how many lines have ended, whether a backslash came
last, and whether the line after those has anything to it besides that. -/
structure Scanner where
  ended : Nat
  begun : Bool
  continued : Bool
deriving DecidableEq, Repr, Inhabited

namespace Scanner

/-- The scanner before the first character. -/
def start : Scanner := ⟨0, false, false⟩

/-- Reads a character. A newline ends a line, unless a backslash came last: that is taken back. -/
def scan (scanner : Scanner) (char : Char) : Scanner :=
  if char = '\n' then
    if scanner.continued then { scanner with continued := false }
    else ⟨scanner.ended + 1, false, false⟩
  else if char = '\\' then ⟨scanner.ended, scanner.begun || scanner.continued, true⟩
  else ⟨scanner.ended, true, false⟩

/-- The number of lines of a text that ends here. -/
def lines (scanner : Scanner) : Nat :=
  scanner.ended + if scanner.begun || scanner.continued then 1 else 0

/-- The scanner after a text that had no continuations. -/
def after (kept : List Char) : Scanner := ⟨kept.count '\n', IsUnfinished kept, false⟩

theorem lines_after (kept : List Char) : (after kept).lines = countLines kept := by
  rw [countLines_eq, lines, after, Bool.or_false]
  simp only [decide_eq_true_eq]

theorem scan_after {char : Char} (kept : List Char) (plain : char ≠ '\\') :
    (after kept).scan char = after (kept ++ [char]) := by
  by_cases newline : char = '\n'
  · subst newline
    have finished : ¬ IsUnfinished (kept ++ ['\n']) := by
      rw [isUnfinished_append_newline]
      exact fun unfinished => unfinished.1 rfl
    simp [scan, after, finished]
  · have unfinished : IsUnfinished (kept ++ [char]) := by
      refine ⟨by simp, ?_⟩
      rw [List.getLast?_concat]
      exact fun same => newline (Option.some.inj same)
    simp [scan, after, unfinished, newline, plain, List.count_append]

/-- A backslash that no newline follows is a character like any other. -/
theorem lines_foldl_of_head? {rest : List Char} (ended : Nat) (begun : Bool)
    (other : rest.head? ≠ some '\n') :
    (rest.foldl scan ⟨ended, begun, true⟩).lines = (rest.foldl scan ⟨ended, true, false⟩).lines := by
  cases rest with
  | nil => simp [lines]
  | cons char rest =>
    have notNewline : char ≠ '\n' := fun same => other (congrArg some same)
    have same : scan ⟨ended, begun, true⟩ char = scan ⟨ended, true, false⟩ char := by
      simp [scan, notNewline]
    rw [List.foldl_cons, List.foldl_cons, same]

/-- What a scanner counts is what is counted of the text without its continuations. -/
theorem lines_foldl_scan (kept text : List Char) :
    (text.foldl scan (after kept)).lines = countLines (kept ++ joinLines text) := by
  induction text using joinLines_induction generalizing kept with
  | nil => rw [List.foldl_nil, lines_after, joinLines, joinLines.go, List.reverse_nil,
      List.append_nil]
  | pair rest inductionHypothesis =>
    have back : ((after kept).scan '\\').scan '\n' = after kept := by
      simp [scan, after]
    rw [List.foldl_cons, List.foldl_cons, back, inductionHypothesis, joinLines_pair]
  | cons char rest notPair inductionHypothesis =>
    rw [joinLines_cons notPair, List.append_cons, ← inductionHypothesis, List.foldl_cons]
    by_cases backslash : char = '\\'
    · subst backslash
      -- The scanner has set the backslash aside, and nothing is there to take it back.
      have opened : after (kept ++ ['\\']) = ⟨kept.count '\n', true, false⟩ := by
        simp [after, IsUnfinished, List.count_append]
      rw [opened]
      exact lines_foldl_of_head? _ _ (notPair rfl)
    · rw [scan_after kept backslash]

end Scanner

theorem logicalLineCount_eq_lines (text : String) :
    logicalLineCount text = (text.toList.foldl Scanner.scan .start).lines :=
  (Scanner.lines_foldl_scan [] text.toList).symm

/-! ### Cutting at continuations -/

/-- Whether a text is what is left of another without the pairs of a backslash and a newline: these
cut the other into pieces that hold none. -/
def Pared (text left : List Char) : Prop :=
  ∃ pieces : List (List Char), text = ['\\', '\n'].intercalate pieces ∧
    (∀ piece ∈ pieces, ¬ ['\\', '\n'] <:+: piece) ∧ left = pieces.flatten

theorem joinLines_of_not_isInfix {piece : List Char} (whole : ¬ ['\\', '\n'] <:+: piece) :
    joinLines piece = piece := by
  induction piece using joinLines_induction with
  | nil => rfl
  | pair rest => exact absurd ⟨[], rest, rfl⟩ whole
  | cons char rest notPair inductionHypothesis =>
    rw [List.infix_cons_iff, not_or] at whole
    rw [joinLines_cons notPair, inductionHypothesis whole.2]

theorem joinLines_intercalate {pieces : List (List Char)}
    (whole : ∀ piece ∈ pieces, ¬ ['\\', '\n'] <:+: piece) :
    joinLines (['\\', '\n'].intercalate pieces) = pieces.flatten := by
  induction pieces with
  | nil => rfl
  | cons piece pieces inductionHypothesis =>
    rw [List.forall_mem_cons] at whole
    cases pieces with
    | nil => simpa using joinLines_of_not_isInfix whole.1
    | cons next others =>
      have apart : joinLines (piece ++ '\\' :: '\n' :: ['\\', '\n'].intercalate (next :: others)) =
          joinLines piece ++ joinLines ('\\' :: '\n' :: ['\\', '\n'].intercalate (next :: others)) :=
        joinLines_append fun _ => by simp
      rw [List.intercalate_cons_cons, List.append_assoc]
      refine apart.trans ?_
      rw [joinLines_pair, inductionHypothesis whole.2, joinLines_of_not_isInfix whole.1]
      rfl

theorem exists_pieces (text : List Char) :
    ∃ first others, text = ['\\', '\n'].intercalate (first :: others) ∧
      ∀ piece ∈ first :: others, ¬ ['\\', '\n'] <:+: piece := by
  induction text using joinLines_induction with
  | nil => exact ⟨[], [], rfl, by simp⟩
  | pair rest inductionHypothesis =>
    obtain ⟨first, others, split, whole⟩ := inductionHypothesis
    refine ⟨[], first :: others, ?_, List.forall_mem_cons.mpr ⟨by simp, whole⟩⟩
    rw [List.intercalate_cons_cons, ← split]
    rfl
  | cons char rest notPair inductionHypothesis =>
    obtain ⟨first, others, split, whole⟩ := inductionHypothesis
    have split' : char :: rest = ['\\', '\n'].intercalate ((char :: first) :: others) := by
      rw [split]
      cases others <;> simp
    refine ⟨char :: first, others, split', ?_⟩
    rw [List.forall_mem_cons] at whole ⊢
    refine ⟨fun pair => ?_, whole.2⟩
    rcases List.infix_cons_iff.mp pair with ⟨more, starts⟩ | later
    · obtain ⟨same, rfl⟩ := List.cons.inj starts
      refine notPair same.symm ?_
      rw [split]
      cases others <;> simp
    · exact whole.1 later

/-- A text is cut at its pairs in just one way, as far as what is left is concerned. -/
theorem pared_iff {text left : List Char} : Pared text left ↔ left = joinLines text := by
  constructor
  · rintro ⟨pieces, rfl, whole, rfl⟩
    exact (joinLines_intercalate whole).symm
  · rintro rfl
    obtain ⟨first, others, split, whole⟩ := exists_pieces text
    refine ⟨first :: others, split, whole, ?_⟩
    rw [split, joinLines_intercalate whole]

/-! ### Texts put together -/

/-- Whether a text is empty or ends in a newline that does not come straight after a backslash. -/
def EndsFreely (text : List Char) : Prop :=
  text = [] ∨ ∃ line, text = line ++ ['\n'] ∧ line.getLast? ≠ some '\\'

theorem logicalLineCount_append {first : String} (second : String)
    (ends : EndsFreely first.toList) :
    logicalLineCount (first ++ second) = logicalLineCount first + logicalLineCount second := by
  have counted := logicalLineCount_eq (first ++ second)
  rw [String.toList_append] at counted
  rw [counted, logicalLineCount_eq first, logicalLineCount_eq second]
  rcases ends with none | ⟨line, split, free⟩
  · rw [none]
    simp [freeNewlines, joinLines, joinLines.go, IsUnfinished]
  · have finished : ¬ IsUnfinished (joinLines (line ++ ['\n'])) := by
      rw [isUnfinished_entry]
      exact fun both => free both.1
    rw [split, if_neg finished, List.append_assoc, List.singleton_append,
      joinLines_append_newline _ free, freeNewlines_append_newline, freeNewlines_append_newline,
      freeNewlines, Nat.add_zero]
    simp only [isUnfinished_append_newline, Nat.add_assoc]

/-- A pair that breaks up no other is taken out again. -/
theorem joinLines_insert {front back : List Char}
    (apart : ¬ (front.getLast? = some '\\' ∧ back.head? = some '\n')) :
    joinLines (front ++ ['\\', '\n'] ++ back) = joinLines (front ++ back) := by
  have cut : joinLines (front ++ ('\\' :: '\n' :: back)) =
      joinLines front ++ joinLines ('\\' :: '\n' :: back) :=
    joinLines_append fun _ => by simp
  rw [List.append_assoc, joinLines_append fun last head => apart ⟨last, head⟩]
  exact cut

/-- The logical lines of a text are what one pass over it counts. They are the newlines that do not
come straight after a backslash, and one more if what is left without every pair of a backslash and
a newline is not empty and does not end in a newline. They add up if the first of two texts is empty
or ends in a newline that does not come straight after a backslash; and a pair changes nothing where
it is put in, unless it comes between a backslash and a newline. -/
theorem logicalLineCount_in_one_pass :
    (∀ text : String,
      logicalLineCount text = (text.toList.foldl Scanner.scan .start).lines ∧
      (∃! left, Pared text.toList left) ∧
      ∀ left, Pared text.toList left →
        logicalLineCount text = freeNewlines false text.toList +
          if left ≠ [] ∧ left.getLast? ≠ some '\n' then 1 else 0) ∧
    (∀ first second : String, EndsFreely first.toList →
      logicalLineCount (first ++ second) = logicalLineCount first + logicalLineCount second) ∧
    ∀ front back : String,
      ¬ (front.toList.getLast? = some '\\' ∧ back.toList.head? = some '\n') →
      logicalLineCount (front ++ "\\\n" ++ back) = logicalLineCount (front ++ back) := by
  refine ⟨fun text => ⟨logicalLineCount_eq_lines text, ?_, ?_⟩,
    fun first second ends => logicalLineCount_append second ends, fun front back apart => ?_⟩
  · simp only [pared_iff]
    exact existsUnique_eq
  · rintro left pared
    rw [pared_iff.mp pared]
    exact logicalLineCount_eq text
  · unfold logicalLineCount
    rw [String.toList_append, String.toList_append, String.toList_append]
    exact congrArg countLines (joinLines_insert apart)

/-- A text with a pair of which the backslash follows another, and which brings a backslash and a
newline together when it goes, is counted apart from what follows its last line; and a pair can be
put in after a backslash. -/
theorem logicalLineCount_in_one_pass_doubled :
    Pared "\\\\\n\n".toList "\\\n".toList ∧
      logicalLineCount "\\\\\n\n" = freeNewlines false "\\\\\n\n".toList ∧
      EndsFreely "\\\\\n\n".toList ∧
      logicalLineCount ("\\\\\n\n" ++ "x") = logicalLineCount "\\\\\n\n" + logicalLineCount "x" ∧
      logicalLineCount ("x\\" ++ "\\\n" ++ "y") = logicalLineCount ("x\\" ++ "y") := by
  have pared : Pared "\\\\\n\n".toList "\\\n".toList :=
    ⟨[['\\'], ['\n']], by decide, by decide, by decide⟩
  have ends : EndsFreely "\\\\\n\n".toList := .inr ⟨"\\\\\n".toList, by decide, by decide⟩
  exact ⟨pared, (logicalLineCount_in_one_pass.1 "\\\\\n\n").2.2 _ pared, ends,
    logicalLineCount_in_one_pass.2.1 "\\\\\n\n" "x" ends,
    logicalLineCount_in_one_pass.2.2 "x\\" "y" (by decide)⟩

end Script

end ShellSmoke
