/-
This file follows the shell through the script of a suite whose cases are lines of `echo`. The line
that prints a label is such a line itself, whatever the number of the test: its text stands between
double quotes, and the dollar sign in it is followed by nothing that it could belong to. So what the
shell prints is the labels and the texts of the cases by turns.
-/

import ShellSmoke.Proofs.Script
import ShellSmoke.Proofs.Shell.Running
import ShellSmoke.Proofs.Text

namespace ShellSmoke.Shell

open Machine

/-! ### Texts that are printed -/

/-- A text without backslashes is printed as it is. -/
theorem unescape_of_noBackslash (printed text : Octets) (noBackslash : '\\' ∉ text) :
    Printing.unescape printed text = (printed.reverse ++ text, false) := by
  induction text generalizing printed with
  | nil => rw [Printing.unescape, List.append_nil]
  | cons char text inductionHypothesis =>
    obtain ⟨differs, others⟩ := not_or.mp (mt List.mem_cons.mpr noBackslash)
    rw [Printing.unescape]
    · rw [inductionHypothesis _ others, List.reverse_cons, List.append_assoc]
      rfl
    all_goals
      intros
      exact differs (Eq.symm ‹char = '\\'›)

/-- So `echo` prints such a text and a newline, unless the text looks like an option. -/
theorem echo_of_noBackslash {text : Octets} (noBackslash : '\\' ∉ text)
    (noOption : text ≠ ['-', 'n']) : Printing.echo [text] = text ++ ['\n'] := by
  have printed := unescape_of_noBackslash [] text noBackslash
  rw [Printing.echo]
  · simp [printed]
  · rintro rest same
    exact noOption (List.cons.inj same).1

/-- The encoding of a text of small characters is the text itself. -/
theorem ofString_of_small {text : String} (small : ∀ char ∈ text.toList, char.toNat < 128) :
    Octets.ofString text = text.toList := by
  unfold Octets.ofString Octets.ofBytes Bytes.ofString
  generalize text.toList = chars at small
  induction chars with
  | nil => rfl
  | cons char chars inductionHypothesis =>
    obtain ⟨isSmall, others⟩ := List.forall_mem_cons.mp small
    have encoded : String.utf8EncodeChar char = [UInt8.ofNat char.toNat] := by
      unfold String.utf8EncodeChar
      exact if_pos (Nat.le_of_lt_succ isSmall)
    rw [List.flatMap_cons, encoded, List.map_append, inductionHypothesis others, List.map_singleton,
      UInt8.toNat_ofNat_of_lt' (Nat.lt_trans isSmall (by decide)), Char.ofNat_toNat]
    rfl

theorem ofString_append (first second : String) :
    Octets.ofString (first ++ second) = Octets.ofString first ++ Octets.ofString second := by
  rw [Octets.ofString, Bytes.ofString_append, Octets.ofBytes, List.map_append]
  rfl

/-! ### Labels -/

/-- The argument of a line that prints a label. -/
def labelArgument (number : Nat) : Argument :=
  ⟨[' '], '\x22' :: (Script.label number).toList ++ ['\x22'],
    [.grouped [.plain (Script.label number).toList]]⟩

theorem toList_label (number : Nat) :
    (Script.label number).toList =
      '$' :: (['>', ' ', 'T', 'e', 's', 't', ' '] ++ Nat.toDigits 10 number) := by
  simp [Script.label, String.toList_append]

theorem length_label_lt {number : Nat} (few : number < Reader.stepLimit) :
    (Script.label number).toList.length < 28 := by
  have digits : (Nat.toDigits 10 number).length ≤ 13 :=
    (Nat.length_toDigits_le_iff (by decide) (by decide)).mpr (Nat.lt_trans few (by decide))
  simp only [toList_label, List.length_cons, List.length_append, List.length_nil]
  omega

theorem inName_of_mem_digits {number : Nat} {char : Char} (mem : char ∈ Nat.toDigits 10 number) :
    Octets.inName char = true := by
  have isDigit := Nat.isDigit_of_mem_toDigits (by decide) (by decide) mem
  exact Bool.or_eq_true_iff.mpr (.inl (Bool.or_eq_true_iff.mpr (.inr isDigit)))

/-- Of the characters of a label after the dollar sign, none is special between double quotes. -/
theorem plain_of_mem_label {number : Nat} {char : Char}
    (mem : char ∈ ['>', ' ', 'T', 'e', 's', 't', ' '] ++ Nat.toDigits 10 number) :
    IsPlain char ∧ char.toNat < 128 ∧ char ∉ ['$', '\x60', '\x22'] := by
  rcases List.mem_append.mp mem with fixed | digit
  · have plain : ['>', ' ', 'T', 'e', 's', 't', ' '].all (fun char =>
        decide (IsPlain char ∧ char.toNat < 128 ∧ char ∉ ['$', '\x60', '\x22'])) = true := rfl
    exact of_decide_eq_true (List.all_eq_true.mp plain char fixed)
  · have inName := inName_of_mem_digits digit
    refine ⟨isPlain_of_inName inName, toNat_lt_of_inName inName, ?_⟩
    simp only [List.mem_cons, List.not_mem_nil, or_false, not_or]
    exact ⟨ne_of_inName inName rfl, ne_of_inName inName rfl, ne_of_inName inName rfl⟩

theorem plain_of_mem_toList_label {number : Nat} {char : Char}
    (mem : char ∈ (Script.label number).toList) : IsPlain char ∧ char.toNat < 128 := by
  rw [toList_label] at mem
  rcases List.mem_cons.mp mem with rfl | mem
  · exact ⟨by decide, by decide⟩
  · exact ⟨(plain_of_mem_label mem).1, (plain_of_mem_label mem).2.1⟩

theorem isSpare_greater : IsSpare '>' := ⟨by decide, rfl, rfl, by decide, by decide⟩

theorem holds_label (number : Nat) :
    Setting.word.quotes.Holds '\x22' (Script.label number).toList := by
  rw [toList_label]
  refine ⟨.inr ⟨rfl, rfl, isSpare_greater⟩, Setting.holds_of_leaves fun char mem => ?_⟩
  exact leaves_quotes (plain_of_mem_label mem).1 (plain_of_mem_label mem).2.2

theorem isSound_labelArgument {number : Nat} (few : number < Reader.stepLimit) :
    (labelArgument number).IsSound where
  blank := List.forall_mem_singleton.mpr (.inl rfl)
  short := (by decide : 1 < Reader.stepLimit)
  begins := ⟨'\x22', _, rfl, by decide, ⟨by decide, by decide, by decide⟩, rfl⟩
  reads := by
    have nonempty : (Script.label number).toList.isEmpty = false := by
      rw [toList_label]
      rfl
    have reads := readsAs_doubleQuotes (holds_label number)
      (Nat.lt_trans (length_label_lt few) (by decide))
    rwa [plainWord, nonempty] at reads

theorem standsFor_grouped (text : Octets) : Word.StandsFor [.grouped [.plain text]] text :=
  ⟨nofun, _, .cons (.grouped [text]) .nil, by simp⟩

/-- The line that prints the label of a test. -/
def labelLine (number : Nat) (few : number < Reader.stepLimit) : EchoLine where
  arguments := [labelArgument number]
  texts := [(Script.label number).toList]
  sound :=
    { isName := isCommandName_echoName
      sound := List.forall_mem_singleton.mpr (isSound_labelArgument few)
      apart := List.forall_mem_singleton.mpr nofun
      short := by
        have label := length_label_lt few
        have echo : echoName.length = 4 := rfl
        simp only [SimpleLine.text, List.flatMap_singleton, Argument.written, labelArgument,
          List.length_append, List.length_cons, List.length_nil, echo, Reader.stepLimit]
        omega }
  stands := .cons (standsFor_grouped _) .nil

theorem written_labelLine {number : Nat} (few : number < Reader.stepLimit) :
    (labelLine number few).written = Octets.ofString (Script.labelLine number ++ "\n") := by
  have written : (labelLine number few).written = (Script.labelLine number ++ "\n").toList := by
    have echo : echoName = ['e', 'c', 'h', 'o'] := rfl
    simp [EchoLine.written, EchoLine.simple, labelLine, SimpleLine.text, Argument.written,
      labelArgument, Script.labelLine, String.toList_append, echo]
  rw [written, ofString_of_small]
  intro char mem
  simp only [Script.labelLine, String.toList_append, List.mem_append] at mem
  rcases mem with ((front | label) | back) | newline
  · exact of_decide_eq_true (List.all_eq_true.mp (rfl : "echo \"".toList.all
      (fun char => decide (char.toNat < 128)) = true) char front)
  · exact (plain_of_mem_toList_label label).2
  · rw [List.mem_singleton.mp back]
    decide
  · rw [List.mem_singleton.mp newline]
    decide

theorem output_labelLine {number : Nat} (few : number < Reader.stepLimit) :
    (labelLine number few).output = Octets.ofString (Script.label number ++ "\n") := by
  have noBackslash : '\\' ∉ (Script.label number).toList :=
    fun mem => (plain_of_mem_toList_label mem).1.2 rfl
  have noOption : (Script.label number).toList ≠ ['-', 'n'] := by
    rw [toList_label]
    exact fun same => absurd (List.cons.inj same).1 (by decide)
  rw [EchoLine.output, labelLine, echo_of_noBackslash noBackslash noOption, ofString_append,
    ofString_of_small fun char mem => (plain_of_mem_toList_label mem).2]
  rfl

/-! ### Scripts of suites -/

/-- A case that is a line of `echo`. -/
structure EchoCase where
  case : Case
  line : EchoLine
  written_eq : line.written = Octets.ofString (case.command ++ "\n")

/-- The lines of a script whose cases are numbered from some number on. -/
def scriptLines : (number : Nat) → (cases : List EchoCase) →
    number + cases.length ≤ Reader.stepLimit → List EchoLine
  | _, [], _ => []
  | number, case :: cases, few =>
    labelLine number (by simp at few; omega) :: case.line ::
      scriptLines (number + 1) cases (by simp at few ⊢; omega)

/-- What a case prints, after its label. -/
def EchoCase.transcript (number : Nat) (case : EchoCase) : Octets :=
  Octets.ofString (Script.label number ++ "\n") ++ case.line.output

theorem ofString_join (texts : List String) :
    Octets.ofString (String.join texts) = texts.flatMap Octets.ofString := by
  unfold Octets.ofString Octets.ofBytes Bytes.ofString
  rw [String.toList_join, List.flatMap_assoc, List.map_flatMap]

variable {number : Nat} {cases : List EchoCase}

theorem length_scriptLines (few : number + cases.length ≤ Reader.stepLimit) :
    (scriptLines number cases few).length = 2 * cases.length := by
  induction cases generalizing number with
  | nil => rfl
  | cons case cases inductionHypothesis =>
    rw [scriptLines, List.length_cons, List.length_cons, inductionHypothesis, List.length_cons]
    rfl

/-- The lines make up the text of the script. -/
theorem written_scriptLines (few : number + cases.length ≤ Reader.stepLimit) :
    (scriptLines number cases few).flatMap EchoLine.written =
      Octets.ofString (String.join
        (cases.mapIdx fun place case => Script.block (number + place) case.case)) := by
  rw [ofString_join]
  induction cases generalizing number with
  | nil => rfl
  | cons case cases inductionHypothesis =>
    rw [List.length_cons, ← Nat.add_assoc, Nat.add_right_comm] at few
    have later := inductionHypothesis few
    simp only [Nat.add_right_comm number 1] at later
    rw [scriptLines, List.flatMap_cons, List.flatMap_cons, later, written_labelLine,
      case.written_eq, List.mapIdx_cons, List.flatMap_cons, Script.block]
    simp only [ofString_append, List.append_assoc, Nat.add_zero, Nat.add_assoc]

theorem printedBy_scriptLines (few : number + cases.length ≤ Reader.stepLimit) :
    printedBy (scriptLines number cases few) =
      Octets.toBytes (cases.mapIdx fun place case => case.transcript (number + place)).flatten := by
  induction cases generalizing number with
  | nil => rfl
  | cons case cases inductionHypothesis =>
    rw [List.length_cons, ← Nat.add_assoc, Nat.add_right_comm] at few
    have later := inductionHypothesis few
    simp only [Nat.add_right_comm number 1] at later
    rw [printedBy] at later ⊢
    rw [scriptLines, List.flatMap_cons, List.flatMap_cons, later, output_labelLine,
      List.mapIdx_cons, List.flatten_cons, EchoCase.transcript]
    simp only [Octets.toBytes, List.map_append, List.append_assoc, Nat.add_zero, Nat.add_assoc]

/-- What the shell is to print for the script of a suite. -/
def transcript (cases : List EchoCase) : Bytes :=
  Octets.toBytes (cases.mapIdx fun place case => case.transcript (place + 1)).flatten

/-- The shell runs the script of a suite whose cases are lines of `echo`: it prints the label and
then the text of one case after another, and nothing else. -/
theorem keeps_script {promise : List Reply → Option UInt8 → Prop} {means : Means} {asking : Bool}
    {rounds count lifetime : Nat} {supply : Supply} {rest : Octets}
    {next : Except Breach Flow × Session → Program} {situation : Situation} {suite : Suite}
    {history : List Reply} (cases_eq : suite.cases = cases.map EchoCase.case)
    (few : suite.size < Reader.stepLimit) (runs : means.run = evaluator (rounds + 1))
    (expects : situation.Expects lifetime (Octets.ofString (Script.compose suite).render ++ rest))
    (meanwhile : ∀ replies, Prints lifetime (transcript cases) replies →
      promise (history ++ replies) none)
    (afterwards : ∀ replies later, HasPrinted lifetime (transcript cases) replies →
      Situation.Expects later lifetime rest →
        (later.program means asking count supply next).Keeps promise (history ++ replies)) :
    (situation.program means asking (count + 2 * suite.size) supply next).Keeps promise
      history := by
  have size_eq : suite.size = cases.length := by rw [Suite.size, cases_eq, List.length_map]
  have enough : 1 + cases.length ≤ Reader.stepLimit := by omega
  have written : Octets.ofString (Script.compose suite).render =
      (scriptLines 1 cases enough).flatMap EchoLine.written := by
    have blocks : ((cases.map EchoCase.case).mapIdx fun place case =>
        Script.block (place + 1) case) =
          cases.mapIdx fun place case => Script.block (1 + place) case.case := by
      refine List.ext_getElem? fun place => ?_
      simp only [List.getElem?_mapIdx, List.getElem?_map, Option.map_map, Nat.add_comm 1]
      rfl
    rw [written_scriptLines, Script.render_compose, cases_eq, blocks]
  have printed : printedBy (scriptLines 1 cases enough) = transcript cases := by
    rw [printedBy_scriptLines, transcript]
    simp only [Nat.add_comm 1]
  rw [written] at expects
  rw [← printed] at meanwhile afterwards
  rw [size_eq, ← length_scriptLines enough]
  exact keeps_lines runs expects meanwhile afterwards

/-! ### Quoted texts -/

theorem standsFor_quotedWord (text : Octets) :
    Word.StandsFor (quotedWord (quotedParts text)) text := by
  refine ⟨?_, quotedParts text, ?_, flatten_quotedParts text⟩
  · rw [quotedWord]
    exact mt List.map_eq_nil_iff.mp (quotedParts_ne_nil text)
  · rw [quotedWord, List.forall₂_map_left_iff, List.forall₂_same]
    exact fun part _ => by simpa using Fragment.StandsFor.grouped [part]

/-- The argument that a text is between quotation marks. -/
def quotedArgument (text : Octets) : Argument :=
  ⟨[' '], quotedText text, quotedWord (quotedParts text)⟩

theorem isSound_quotedArgument {text : Octets} (bytes : ∀ char ∈ text, isAliasEnd char = false)
    (short : (quotedText text).length < Reader.stepLimit) : (quotedArgument text).IsSound where
  blank := List.forall_mem_singleton.mpr (.inl rfl)
  short := (by decide : 1 < Reader.stepLimit)
  begins := by
    obtain ⟨part, parts, parts_eq⟩ := List.exists_cons_of_ne_nil (quotedParts_ne_nil text)
    have text_eq : (quotedArgument text).text =
        quotation part ++ parts.flatMap quotation := by
      rw [quotedArgument, quotedText_eq, parts_eq, List.flatMap_cons]
    rw [text_eq, quotation]
    split
    · exact ⟨'\x22', _, rfl, by decide, ⟨by decide, by decide, by decide⟩, rfl⟩
    · exact ⟨'\x27', _, rfl, by decide, ⟨by decide, by decide, by decide⟩, rfl⟩
  reads := readsAs_quotedText bytes short

/-- The line that prints a text which the shell itself put between quotation marks. -/
def quotedLine (text : Octets) (bytes : ∀ char ∈ text, isAliasEnd char = false)
    (short : (quotedText text).length + 5 < Reader.stepLimit) : EchoLine where
  arguments := [quotedArgument text]
  texts := [text]
  sound :=
    { isName := isCommandName_echoName
      sound := List.forall_mem_singleton.mpr (isSound_quotedArgument bytes (by omega))
      apart := List.forall_mem_singleton.mpr nofun
      short := by
        have echo : echoName.length = 4 := rfl
        simp only [SimpleLine.text, List.flatMap_singleton, Argument.written, quotedArgument,
          List.length_append, List.length_singleton, echo]
        omega }
  stands := .cons (standsFor_quotedWord text) .nil

/-- What the shell put between quotation marks, `echo` prints as it was before. -/
theorem keeps_quotedText {promise : List Reply → Option UInt8 → Prop} {means : Means}
    {asking : Bool} {rounds count lifetime : Nat} {supply : Supply} {text rest : Octets}
    {next : Except Breach Flow × Session → Program} {situation : Situation} {history : List Reply}
    (bytes : ∀ char ∈ text, isAliasEnd char = false)
    (short : (quotedText text).length + 5 < Reader.stepLimit) (noBackslash : '\\' ∉ text)
    (noOption : text ≠ ['-', 'n']) (runs : means.run = evaluator (rounds + 1))
    (expects : situation.Expects lifetime ("echo ".toList ++ quotedText text ++ '\n' :: rest))
    (meanwhile : ∀ replies, Prints lifetime (Octets.toBytes (text ++ ['\n'])) replies →
      promise (history ++ replies) none)
    (afterwards : ∀ replies later, HasPrinted lifetime (Octets.toBytes (text ++ ['\n'])) replies →
      Situation.Expects later lifetime rest →
        (later.program means asking count supply next).Keeps promise (history ++ replies)) :
    (situation.program means asking (count + 1) supply next).Keeps promise history := by
  have output : (quotedLine text bytes short).output = text ++ ['\n'] :=
    echo_of_noBackslash noBackslash noOption
  have written : (quotedLine text bytes short).written ++ rest =
      "echo ".toList ++ quotedText text ++ '\n' :: rest := by
    have echo : echoName = ['e', 'c', 'h', 'o'] := rfl
    simp [EchoLine.written, EchoLine.simple, quotedLine, SimpleLine.text, Argument.written,
      quotedArgument, echo]
  rw [← written] at expects
  rw [← output] at meanwhile afterwards
  exact keeps_line runs expects meanwhile afterwards

end ShellSmoke.Shell
