/-
This file proves that the arithmetic of the shell stays within numbers of 64 bits, and that what is
skipped has no effect. Each operator takes such numbers to such a number, or is a fault; the readers
put no others into a tree; so by induction on the tree whatever is computed or assigned is one.
-/

import ShellSmoke.Shell.Arithmetic

namespace ShellSmoke.Shell.Arithmetic

/-! ### Numbers of 64 bits -/

/-- Whether a number fits into 64 bits with a sign. -/
def IsWord (value : Int) : Prop := -(largest + 1 : Int) ≤ value ∧ value ≤ largest

instance (value : Int) : Decidable (IsWord value) := inferInstanceAs (Decidable (_ ∧ _))

theorem isWord_wrap (value : Int) : IsWord (wrap value) := by
  have low := Int.le_bmod (x := value) (m := wordBound) (by decide)
  have high := Int.bmod_lt (x := value) (m := wordBound) (by decide)
  unfold IsWord wrap largest
  unfold wordBound at *
  omega

theorem isWord_ofBool (condition : Bool) : IsWord (ofBool condition) := by
  unfold IsWord ofBool largest
  split <;> omega

theorem isWord_bitwise (combine : BitVec 64 → BitVec 64 → BitVec 64) (left right : Int) :
    IsWord (bitwise combine left right) := by
  have low := (combine (BitVec.ofInt 64 left) (BitVec.ofInt 64 right)).le_toInt
  have high := (combine (BitVec.ofInt 64 left) (BitVec.ofInt 64 right)).toInt_lt
  unfold IsWord bitwise largest
  omega

theorem isWord_of_natAbs_le {value left : Int} (word : IsWord left)
    (smaller : value.natAbs ≤ left.natAbs) (fits : value ≤ largest) : IsWord value := by
  unfold IsWord largest at *
  omega

theorem isWord_shiftRight {left : Int} (word : IsWord left) (count : Nat) :
    IsWord (left >>> count) := by
  have positive : 0 < ((2 ^ count : Nat) : Int) := Int.natCast_pos.mpr (Nat.two_pow_pos count)
  rw [Int.shiftRight_eq_div_pow]
  refine isWord_of_natAbs_le word (Int.natAbs_ediv_le_natAbs _ _) ?_
  by_cases negative : left < 0
  · exact Int.le_trans (Int.le_of_lt (Int.ediv_neg_of_neg_of_pos negative positive)) (by decide)
  · exact Int.le_trans (Int.ediv_le_self _ (Int.not_lt.mp negative)) word.2

theorem isWord_tdiv {left right : Int} (word : IsWord left)
    (divides : divisible left right = .ok ()) : IsWord (left.tdiv right) := by
  unfold divisible at divides
  split at divides
  · cases divides
  split at divides
  · cases divides
  · exact isWord_of_natAbs_le word (Int.natAbs_tdiv_le_natAbs left right) (Int.not_lt.mp ‹_›)

theorem isWord_tmod {left right : Int} (word : IsWord right)
    (divides : divisible left right = .ok ()) : IsWord (left.tmod right) := by
  unfold divisible at divides
  split at divides
  · cases divides
  · have smaller : (left.tmod right).natAbs < right.natAbs := by
      rw [Int.natAbs_tmod]
      exact Nat.mod_lt _ (by omega)
    unfold IsWord largest at *
    omega

/-- An operator between numbers of 64 bits has such a number for a value. -/
theorem isWord_combine {operator : String} {left right value : Int} (isWord : IsWord left)
    (alsoWord : IsWord right) (combined : combine operator left right = .ok value) :
    IsWord value := by
  have divided {quotient : Int} (map : (divisible left right).map (fun _ => quotient) = .ok value) :
      divisible left right = .ok () ∧ quotient = value := by
    cases divides : divisible left right with
    | error fault => rw [divides] at map; cases map
    | ok _ => rw [divides] at map; exact ⟨rfl, Except.ok.inj map⟩
  unfold combine at combined
  split at combined
  case h_15 =>
    obtain ⟨divides, rfl⟩ := divided combined
    exact isWord_tdiv isWord divides
  case h_16 =>
    obtain ⟨divides, rfl⟩ := divided combined
    exact isWord_tmod alsoWord divides
  case h_17 => cases combined
  all_goals obtain rfl := Except.ok.inj combined
  all_goals first
    | exact isWord_bitwise _ _ _
    | exact isWord_ofBool _
    | exact isWord_wrap _
    | exact isWord_shiftRight isWord _

/-- So has an operator before such a number. -/
theorem isWord_prepend (operator : String) {value : Int} (isWord : IsWord value) :
    IsWord (prepend operator value) := by
  unfold prepend
  split
  · exact isWord_wrap _
  · exact isWord_ofBool _
  · unfold IsWord at *
    omega
  · exact isWord

/-- The value of a text is a number of 64 bits. -/
theorem isWord_ofText? {text : Octets} {value : Int} (read : ofText? text = some value) :
    IsWord value := by
  unfold ofText? at read
  unfold IsWord
  extract_lets blanked at read
  split at read
  split at read
  · split at read
    · cases read
      decide
    · cases read
  · grind

/-! ### Trees of numbers of 64 bits -/

/-- Whether the numbers in an expression fit into 64 bits. -/
def Expression.IsNumbered : Expression → Prop
  | .number value => IsWord value
  | .parameter _ => True
  | .signed _ operand => operand.IsNumbered
  | .joined _ left right | .both left right | .either left right =>
    left.IsNumbered ∧ right.IsNumbered
  | .choice condition whenTrue otherwise =>
    condition.IsNumbered ∧ whenTrue.IsNumbered ∧ otherwise.IsNumbered
  | .assignment _ _ value => value.IsNumbered
  | .spoiled expression _ => expression.IsNumbered

/-- Whether the numbers among signs fit into 64 bits. -/
def AreNumbered (signs : List Sign) : Prop := ∀ value, .number value ∈ signs → IsWord value

theorem AreNumbered.of_cons {sign : Sign} {signs : List Sign}
    (numbered : AreNumbered (sign :: signs)) : AreNumbered signs :=
  fun value mem => numbered value (.tail _ mem)

theorem areNumbered_nil : AreNumbered [] := fun _ mem => nomatch mem

theorem isWord_min (value : Nat) : IsWord (min value largest) := by
  unfold IsWord largest
  omega

/-- The signs of a text hold no other numbers: one that is too large becomes the largest. -/
theorem areNumbered_signsFrom (count : Nat) (found : List Sign) (text : Octets)
    (numbered : AreNumbered found) : AreNumbered (signsFrom found count text) := by
  have found_cons {sign : Sign} {found : List Sign} (isWord : ∀ value, sign = .number value →
      IsWord value) (numbered : AreNumbered found) : AreNumbered (sign :: found) := by
    intro value mem
    rcases List.mem_cons.mp mem with rfl | mem
    · exact isWord value rfl
    · exact numbered value mem
  have reversed {found : List Sign} (numbered : AreNumbered found) :
      AreNumbered found.reverse := fun value mem => numbered value (List.mem_reverse.mp mem)
  fun_induction signsFrom found count text with
  | case1 | case2 => exact reversed numbered
  | case3 _ _ _ _ _ ih => exact ih numbered
  | case4 _ _ _ _ _ value _ _ ih =>
    exact ih (found_cons (fun _ eq => by cases eq; exact_mod_cast isWord_min value) numbered)
  | case5 _ _ _ _ _ _ _ _ ih => exact ih (found_cons (fun _ eq => nomatch eq) numbered)
  | case6 _ _ _ _ _ _ _ _ _ ih => exact ih (found_cons (fun _ eq => nomatch eq) numbered)
  | case7 => exact reversed (found_cons (fun _ eq => nomatch eq) numbered)

/-- Whether a reader makes expressions with numbers of 64 bits from signs with such numbers, and
leaves signs with such numbers. -/
def KeepsNumbers (reader : Reading) : Prop :=
  ∀ signs, AreNumbered signs → (reader signs).1.IsNumbered ∧ AreNumbered (reader signs).2

theorem isNumbered_nothing (fault : Fault) : (Expression.nothing fault).IsNumbered := by
  show IsWord 0
  decide

theorem keepsNumbers_readOperand {inner : Reading} (keeps : KeepsNumbers inner) (count : Nat) :
    KeepsNumbers (readOperand inner count) := by
  induction count with
  | zero => exact fun _ _ => ⟨isNumbered_nothing _, areNumbered_nil⟩
  | succ count ih =>
    intro signs numbered
    have rest {sign : Sign} {rest : List Sign} (eq : signs = sign :: rest) : AreNumbered rest :=
      AreNumbered.of_cons (eq ▸ numbered)
    unfold readOperand
    split
    · exact ⟨numbered _ (.head _), rest rfl⟩
    · exact ⟨trivial, rest rfl⟩
    · obtain ⟨isNumbered, after⟩ := keeps _ (rest rfl)
      split
      next eq =>
        rw [eq] at isNumbered after
        exact ⟨isNumbered, after.of_cons⟩
      next eq =>
        rw [eq] at isNumbered
        exact ⟨isNumbered, areNumbered_nil⟩
    · split
      · exact ih _ (rest rfl)
      · exact ⟨isNumbered_nothing _, areNumbered_nil⟩
    · exact ⟨isNumbered_nothing _, areNumbered_nil⟩

theorem keepsNumbers_readChain {operand : Reading} (keeps : KeepsNumbers operand)
    (operators : List String) (count : Nat) (left : Expression) (isNumbered : left.IsNumbered) :
    KeepsNumbers (readChain operand operators left count) := by
  induction count generalizing left with
  | zero => exact fun _ numbered => ⟨isNumbered, numbered⟩
  | succ count ih =>
    intro signs numbered
    unfold readChain
    split
    · split
      · obtain ⟨right, after⟩ := keeps _ numbered.of_cons
        exact ih (.joined _ left _) (And.intro isNumbered right) _ after
      · exact ⟨isNumbered, numbered⟩
    · exact ⟨isNumbered, numbered⟩

theorem keepsNumbers_readJoined {operand : Reading} (keeps : KeepsNumbers operand)
    (levels : List (List String)) : KeepsNumbers (readJoined operand levels) := by
  induction levels with
  | nil => exact keeps
  | cons operators tighter ih =>
    intro signs numbered
    obtain ⟨left, after⟩ := ih _ numbered
    exact keepsNumbers_readChain ih _ _ _ left _ after

theorem keepsNumbers_readConnected {part : Reading} (keeps : KeepsNumbers part) (operator : String)
    (connect : Expression → Expression → Expression)
    (connects : ∀ left right, left.IsNumbered → right.IsNumbered → (connect left right).IsNumbered)
    (count : Nat) : KeepsNumbers (readConnected part operator connect count) := by
  induction count with
  | zero => exact keeps
  | succ count ih =>
    intro signs numbered
    have first := keeps _ numbered
    unfold readConnected
    generalize part signs = result at first ⊢
    obtain ⟨left, rest⟩ := result
    dsimp only at first ⊢
    split
    · split
      · obtain ⟨right, last⟩ := ih _ first.2.of_cons
        exact ⟨connects _ _ first.1 right, last⟩
      · exact first
    · exact first

theorem keepsNumbers_readCondition {inner : Reading} (keeps : KeepsNumbers inner) (count : Nat) :
    KeepsNumbers (readCondition inner count) := by
  induction count with
  | zero => exact fun _ _ => ⟨isNumbered_nothing _, areNumbered_nil⟩
  | succ count ih =>
    intro signs numbered
    have operand := keepsNumbers_readOperand keeps (count + 1)
    have conjunction := keepsNumbers_readConnected (keepsNumbers_readJoined operand levels) "&&"
      .both (fun _ _ left right => ⟨left, right⟩) count
    have disjunction := keepsNumbers_readConnected conjunction "||"
      .either (fun _ _ left right => ⟨left, right⟩) count _ numbered
    unfold readCondition
    dsimp only
    generalize readConnected _ "||" _ count signs = result at disjunction ⊢
    obtain ⟨condition, rest⟩ := result
    dsimp only at disjunction ⊢
    split
    · have chosen := keeps _ disjunction.2.of_cons
      generalize inner _ = result at chosen ⊢
      obtain ⟨whenTrue, rest⟩ := result
      dsimp only at chosen ⊢
      split
      next eq =>
        cases eq
        obtain ⟨otherwise, last⟩ := ih _ chosen.2.of_cons
        exact ⟨⟨disjunction.1, chosen.1, otherwise⟩, last⟩
      next eq =>
        cases eq
        exact ⟨⟨disjunction.1, chosen.1, (by decide : IsWord 0)⟩, areNumbered_nil⟩
    · exact disjunction

theorem keepsNumbers_readExpression (count : Nat) : KeepsNumbers (readExpression count) := by
  induction count with
  | zero => exact fun _ _ => ⟨isNumbered_nothing _, areNumbered_nil⟩
  | succ count ih =>
    intro signs numbered
    unfold readExpression
    split
    · split
      · exact ih _ numbered.of_cons.of_cons
      · exact keepsNumbers_readCondition ih _ _ numbered
    · exact keepsNumbers_readCondition ih _ _ numbered

/-- The tree that a text is read as holds numbers of 64 bits only. -/
theorem isNumbered_read (text : Octets) : (read text).IsNumbered := by
  have numbered := (keepsNumbers_readExpression ((signs text).length + 1) (signs text)
    (areNumbered_signsFrom _ _ _ areNumbered_nil)).1
  unfold read
  extract_lets
  split
  all_goals next eq =>
    rw [eq] at numbered
    exact numbered

/-! ### Evaluations -/

/-- Whether variables are set to numbers of 64 bits. -/
def AreWords (changes : Bindings) : Prop :=
  ∀ change ∈ changes, ∃ value, IsWord value ∧ change.2 = .ofInt value

/-- Whether an evaluation, where it comes to a value, comes to a number of 64 bits, and sets
variables to such numbers only, and none where it is not live. -/
def IsSound (live : Bool) (evaluation : Evaluation Int) : Prop :=
  ∀ before value after, evaluation before = .ok (value, after) → IsWord value ∧
    ∃ changes, after = changes ++ before ∧ AreWords changes ∧ (live = false → changes = [])

theorem IsSound.pure {live : Bool} {value : Int} (isWord : IsWord value) :
    IsSound live (pure value) := by
  intro before value' after eq
  cases eq
  exact ⟨isWord, [], rfl, List.forall_mem_nil _, fun _ => rfl⟩

theorem IsSound.bind {live : Bool} {first : Evaluation Int} {rest : Int → Evaluation Int}
    (sound : IsSound live first) (after : ∀ value, IsWord value → IsSound live (rest value)) :
    IsSound live (first >>= rest) := by
  intro before value last eq
  change (first before).bind (fun result => rest result.1 result.2) = _ at eq
  cases run : first before with
  | error fault => rw [run] at eq; cases eq
  | ok result =>
    rw [run] at eq
    obtain ⟨isWord, earlier, changed, areWords, skipped⟩ := sound before result.1 result.2 run
    obtain ⟨isWord', later, changed', areWords', skipped'⟩ := after _ isWord _ _ _ eq
    refine ⟨isWord', later ++ earlier, by rw [changed', changed, List.append_assoc], ?_, ?_⟩
    · intro change mem
      rcases List.mem_append.mp mem with mem | mem
      · exact areWords' change mem
      · exact areWords change mem
    · intro dead
      rw [skipped dead, skipped' dead, List.append_nil]

/-- An evaluation that changes nothing is sound in a part that is live, too. -/
theorem IsSound.of_and {live holds : Bool} {evaluation : Evaluation Int}
    (sound : IsSound (live && holds) evaluation) : IsSound live evaluation := by
  intro before value after eq
  obtain ⟨isWord, changes, changed, areWords, skipped⟩ := sound before value after eq
  exact ⟨isWord, changes, changed, areWords, fun dead => skipped (by rw [dead, Bool.false_and])⟩

theorem isSound_combine (live : Bool) (operator : String) {left right : Int}
    (isWord : IsWord left) (alsoWord : IsWord right) :
    IsSound live (liftM (combine operator left right) : Evaluation Int) := by
  cases combined : combine operator left right with
  | error fault => exact fun _ _ _ eq => nomatch eq
  | ok value => exact IsSound.pure (isWord_combine isWord alsoWord combined)

theorem isSound_valueOf (live : Bool) (name : Octets) : IsSound live (valueOf name) := by
  intro before value after eq
  have found : (get : Evaluation Bindings) before = .ok (before, before) := rfl
  simp only [valueOf, bind, StateT.bind, Except.bind, found] at eq
  cases read : ofText? ((before.lookup name).getD []) with
  | none => rw [read] at eq; cases eq
  | some number =>
    rw [read] at eq
    exact IsSound.pure (isWord_ofText? read) before value after eq

theorem isSound_assign {value : Int} (name : Octets) (isWord : IsWord value) :
    IsSound true (do
      modify fun bindings => (name, Octets.ofInt value) :: bindings
      return value) := by
  intro before value' after eq
  cases eq
  refine ⟨isWord, [(name, .ofInt value)], rfl, ?_, fun dead => nomatch dead⟩
  exact List.forall_mem_singleton.mpr ⟨value, isWord, rfl⟩

/-- Each part of an expression is evaluated soundly, by induction on the tree. -/
theorem isSound_evaluate (live : Bool) (expression : Expression)
    (isNumbered : expression.IsNumbered) : IsSound live (evaluate live expression) := by
  induction expression generalizing live with
  | number value => exact IsSound.pure isNumbered
  | parameter name =>
    unfold evaluate
    split
    · exact isSound_valueOf live name
    · exact IsSound.pure (by decide)
  | signed operator operand ih =>
    exact (ih live isNumbered).bind fun _ isWord => IsSound.pure (isWord_prepend operator isWord)
  | joined operator left right leftIh rightIh =>
    refine (leftIh live isNumbered.1).bind fun _ isWord => ?_
    refine (rightIh live isNumbered.2).bind fun _ isWord' => ?_
    split
    · exact isSound_combine live operator isWord isWord'
    · exact IsSound.pure isWord'
  | both left right leftIh rightIh =>
    refine (leftIh live isNumbered.1).bind fun _ _ => ?_
    refine (rightIh _ isNumbered.2).of_and.bind fun _ _ => ?_
    exact IsSound.pure (isWord_ofBool _)
  | either left right leftIh rightIh =>
    refine (leftIh live isNumbered.1).bind fun _ _ => ?_
    refine (rightIh _ isNumbered.2).of_and.bind fun _ _ => ?_
    exact IsSound.pure (isWord_ofBool _)
  | choice condition whenTrue otherwise conditionIh trueIh otherwiseIh =>
    refine (conditionIh live isNumbered.1).bind fun _ _ => ?_
    refine (trueIh _ isNumbered.2.1).of_and.bind fun _ isWord => ?_
    refine (otherwiseIh _ isNumbered.2.2).of_and.bind fun _ isWord' => ?_
    exact IsSound.pure (by split <;> assumption)
  | assignment name operator value ih =>
    refine (ih live isNumbered).bind fun _ isWord => ?_
    cases live
    · exact IsSound.pure isWord
    cases operator with
    | none => exact isSound_assign name isWord
    | some operator =>
      refine (isSound_valueOf true name).bind fun _ isWord' => ?_
      refine (isSound_combine true operator isWord' isWord).bind fun _ isWord'' => ?_
      exact isSound_assign name isWord''
  | spoiled expression fault ih =>
    refine (ih live isNumbered).bind fun _ _ => ?_
    exact fun _ _ _ eq => nomatch eq

/-- Where the arithmetic of a text comes to a value, it is a number of 64 bits, and so is each value
that it gives a variable. -/
theorem compute_isWord {text : Octets} {bindings changes : Bindings} {value : Int}
    (computed : compute text bindings = .ok (value, changes)) :
    IsWord value ∧ AreWords changes := by
  unfold compute at computed
  split at computed
  · cases computed
  next after evaluated =>
    cases computed
    obtain ⟨isWord, changes, rfl, areWords, -⟩ :=
      isSound_evaluate true (read text) (isNumbered_read text) _ _ _ evaluated
    rw [List.length_append, Nat.add_sub_cancel, List.take_left]
    exact ⟨isWord, areWords⟩

/-- What is skipped changes no variable. -/
theorem evaluate_skipped {expression : Expression} {before after : Bindings} {value : Int}
    (isNumbered : expression.IsNumbered)
    (evaluated : evaluate false expression before = .ok (value, after)) : after = before := by
  obtain ⟨-, changes, changed, -, none⟩ :=
    isSound_evaluate false expression isNumbered _ _ _ evaluated
  rw [changed, none rfl, List.nil_append]

end ShellSmoke.Shell.Arithmetic
