/-
This file proves what the patterns of the shell match. A pattern matches a text that can be divided
so that each part of the pattern matches its part of the text. The matcher, which finds all matching
ends of a text at once, finds exactly those; so a text that is trimmed loses the shortest or the
longest of its ends that the pattern matches. What was quoted matches nothing but itself.
-/

import ShellSmoke.Shell.Pattern

namespace ShellSmoke.Shell.Pattern

/-! ### Matching -/

/-- Whether a pattern matches a text: each part of the pattern matches one character, but for those
that match any text. -/
inductive Matches : Pattern → Octets → Prop where
  | nothing : Matches [] []
  | text {pattern : Pattern} {rest : Octets} (skipped : Octets) (later : Matches pattern rest) :
    Matches (.anyText :: pattern) (skipped ++ rest)
  | one {glob : Glob} {pattern : Pattern} {char : Char} {rest : Octets} (single : glob ≠ .anyText)
    (fit : fits glob char = true) (later : Matches pattern rest) :
    Matches (glob :: pattern) (char :: rest)

theorem matches_nil_iff {text : Octets} : Matches [] text ↔ text = [] :=
  ⟨fun matched => by cases matched; rfl, fun empty => empty ▸ .nothing⟩

/-- Any text matches nothing or a character and then again any text. -/
theorem matches_anyText_cons_iff {pattern : Pattern} {char : Char} {text : Octets} :
    Matches (.anyText :: pattern) (char :: text) ↔
      Matches pattern (char :: text) ∨ Matches (.anyText :: pattern) text := by
  constructor
  · intro matched
    generalize whole : char :: text = all at matched
    cases matched with
    | one single _ _ => exact absurd rfl single
    | text skipped later =>
      obtain _ | ⟨first, others⟩ := skipped
      · exact .inl later
      · obtain ⟨rfl, rfl⟩ := List.cons.inj whole
        exact .inr (.text others later)
  · rintro (matched | matched)
    · exact .text [] matched
    · generalize whole : Glob.anyText :: pattern = parts at matched
      cases matched with
      | nothing => cases whole
      | one single _ _ => exact absurd (List.cons.inj whole).1.symm single
      | text skipped later =>
        obtain rfl := (List.cons.inj whole).2
        exact .text (char :: skipped) later

theorem matches_anyText_nil_iff {pattern : Pattern} :
    Matches (.anyText :: pattern) [] ↔ Matches pattern [] := by
  constructor
  · intro matched
    generalize whole : ([] : Octets) = all at matched
    cases matched with
    | one _ _ _ => cases whole
    | text skipped later =>
      obtain ⟨rfl, rfl⟩ := List.append_eq_nil_iff.mp whole.symm
      exact later
  · exact fun matched => .text [] matched

theorem matches_one_cons_iff {glob : Glob} (single : glob ≠ .anyText) {pattern : Pattern}
    {char : Char} {text : Octets} :
    Matches (glob :: pattern) (char :: text) ↔ fits glob char = true ∧ Matches pattern text := by
  constructor
  · intro matched
    generalize whole : char :: text = all at matched
    cases matched with
    | text _ _ => exact absurd rfl single
    | one _ fit later =>
      obtain ⟨rfl, rfl⟩ := List.cons.inj whole
      exact ⟨fit, later⟩
  · exact fun ⟨fit, later⟩ => .one single fit later

theorem not_matches_one_nil {glob : Glob} (single : glob ≠ .anyText) (pattern : Pattern) :
    ¬ Matches (glob :: pattern) [] := by
  intro matched
  generalize whole : ([] : Octets) = all at matched
  cases matched with
  | text _ _ => exact absurd rfl single
  | one _ _ _ => cases whole

/-! ### The ends of a text -/

/-- Whether flags tell which of the ends of a text, longest first, are wanted. -/
inductive Tells (wanted : Octets → Prop) : Octets → List Bool → Prop where
  | last {flag : Bool} (tells : flag = true ↔ wanted []) : Tells wanted [] [flag]
  | here {flag : Bool} {char : Char} {text : Octets} {flags : List Bool}
    (tells : flag = true ↔ wanted (char :: text)) (later : Tells wanted text flags) :
    Tells wanted (char :: text) (flag :: flags)

section

variable {wanted : Octets → Prop} {text : Octets} {flags : List Bool}

/-- The first flag is about the whole text. -/
theorem Tells.headD (tells : Tells wanted text flags) : flags.headD false = true ↔ wanted text := by
  cases tells with
  | last tells => exact tells
  | here tells _ => exact tells

theorem Tells.length_eq (tells : Tells wanted text flags) : flags.length = text.length + 1 := by
  induction tells with
  | last _ => rfl
  | here _ _ inductionHypothesis => exact congrArg (· + 1) inductionHypothesis

theorem Tells.getElem (tells : Tells wanted text flags) (place : Nat)
    (inside : place < flags.length) : flags[place] = true ↔ wanted (text.drop place) := by
  induction tells generalizing place with
  | last tells =>
    obtain rfl : place = 0 := Nat.lt_one_iff.mp inside
    exact tells
  | here tells _ inductionHypothesis =>
    cases place with
    | zero => exact tells
    | succ place => exact inductionHypothesis place (Nat.lt_of_succ_lt_succ inside)

end

theorem tells_whereSome {pattern : Pattern} {text : Octets} {flags : List Bool}
    (tells : Tells (Matches pattern) text flags) :
    Tells (Matches (.anyText :: pattern)) text (whereSome flags) := by
  induction tells with
  | last tells =>
    refine .last ?_
    rw [matches_anyText_nil_iff, ← tells]
    simp [whereSome]
  | here tells _ inductionHypothesis =>
    refine .here ?_ inductionHypothesis
    rw [matches_anyText_cons_iff, ← tells, ← inductionHypothesis.headD, Bool.or_eq_true]

theorem tells_whereFits {glob : Glob} (single : glob ≠ .anyText) {pattern : Pattern}
    {text : Octets} {flags : List Bool} (tells : Tells (Matches pattern) text flags) :
    Tells (Matches (glob :: pattern)) text (whereFits glob text flags) := by
  induction tells with
  | last _ =>
    refine .last ⟨nofun, fun matched => ?_⟩
    exact absurd matched (not_matches_one_nil single pattern)
  | here _ later inductionHypothesis =>
    refine .here ?_ inductionHypothesis
    rw [matches_one_cons_iff single, ← later.headD, Bool.and_eq_true]

/-- The ends that are found are those that the pattern matches. -/
theorem tells_matchingEnds (pattern : Pattern) (text : Octets) :
    Tells (Matches pattern) text (matchingEnds text pattern) := by
  induction pattern with
  | nil =>
    induction text with
    | nil => exact .last ⟨fun _ => .nothing, fun _ => rfl⟩
    | cons char rest inductionHypothesis =>
      exact .here ⟨nofun, nofun⟩ inductionHypothesis
  | cons glob pattern inductionHypothesis =>
    by_cases some : glob = .anyText
    · subst glob
      exact tells_whereSome inductionHypothesis
    · have fits := tells_whereFits some inductionHypothesis
      cases glob with
      | anyText => exact absurd rfl some
      | literal char => exact fits
      | anyChar => exact fits
      | oneOf negated members => exact fits

/-- The matcher finds out whether a pattern matches a text. -/
theorem matchesAll_iff (pattern : Pattern) (text : Octets) :
    pattern.matchesAll text = true ↔ Matches pattern text :=
  (tells_matchingEnds pattern text).headD

/-! ### Patterns backwards -/

/-- One pattern after another matches one text after another. -/
theorem matches_append_iff {first second : Pattern} {text : Octets} :
    Matches (first ++ second) text ↔
      ∃ front back, text = front ++ back ∧ Matches first front ∧ Matches second back := by
  constructor
  · intro matched
    induction first generalizing text with
    | nil => exact ⟨[], text, rfl, .nothing, matched⟩
    | cons glob first inductionHypothesis =>
      rw [List.cons_append] at matched
      cases matched with
      | text skipped later =>
        obtain ⟨front, back, rfl, front', back'⟩ := inductionHypothesis later
        exact ⟨skipped ++ front, back, (List.append_assoc _ _ _).symm, .text skipped front', back'⟩
      | one single fit later =>
        obtain ⟨front, back, rfl, front', back'⟩ := inductionHypothesis later
        exact ⟨_ :: front, back, rfl, .one single fit front', back'⟩
  · rintro ⟨front, back, rfl, matched, later⟩
    induction matched with
    | nothing => exact later
    | text skipped _ inductionHypothesis =>
      rw [List.append_assoc]
      exact .text skipped inductionHypothesis
    | one single fit _ inductionHypothesis => exact .one single fit inductionHypothesis

theorem Matches.reverse {pattern : Pattern} {text : Octets} (matched : Matches pattern text) :
    Matches pattern.reverse text.reverse := by
  induction matched with
  | nothing => exact .nothing
  | text skipped _ inductionHypothesis =>
    rw [List.reverse_cons, List.reverse_append]
    have any : Matches [.anyText] skipped.reverse := by
      simpa using Matches.text skipped.reverse .nothing
    exact matches_append_iff.mpr ⟨_, _, rfl, inductionHypothesis, any⟩
  | one single fit _ inductionHypothesis =>
    rw [List.reverse_cons, List.reverse_cons]
    exact matches_append_iff.mpr ⟨_, _, rfl, inductionHypothesis, .one single fit .nothing⟩

/-- A pattern backwards matches a text backwards. -/
theorem matches_reverse_iff {pattern : Pattern} {text : Octets} :
    Matches pattern.reverse text.reverse ↔ Matches pattern text :=
  ⟨fun matched => by simpa using matched.reverse, Matches.reverse⟩

/-! ### Trimming -/

/-- Whether an end of a text is the longest that a pattern matches, or the shortest. -/
structure IsExtremeEnd (pattern : Pattern) (longest : Bool) (text ending : Octets) : Prop where
  isSuffix : ending <:+ text
  matched : Matches pattern ending
  extreme : ∀ other, other <:+ text → Matches pattern other →
    if longest then other.length ≤ ending.length else ending.length ≤ other.length

theorem isExtremeEnd_drop {pattern : Pattern} {longest : Bool} {text : Octets} {place : Nat}
    (inside : place ≤ text.length) (matched : Matches pattern (text.drop place))
    (extreme : ∀ other, other ≤ text.length → Matches pattern (text.drop other) →
      if longest then place ≤ other else other ≤ place) :
    IsExtremeEnd pattern longest text (text.drop place) where
  isSuffix := List.drop_suffix place text
  matched := matched
  extreme other suffix fits := by
    have shorter := suffix.length_le
    have further := extreme (text.length - other.length) (Nat.sub_le _ _)
      (List.suffix_iff_eq_drop.mp suffix ▸ fits)
    rw [List.length_drop]
    split at further
    · rw [if_pos ‹_›]
      omega
    · rw [if_neg ‹_›]
      omega

theorem getElem_matchingEnds (pattern : Pattern) (text : Octets) {place : Nat}
    (inside : place < (matchingEnds text pattern).length) :
    (matchingEnds text pattern)[place] = true ↔ Matches pattern (text.drop place) :=
  (tells_matchingEnds pattern text).getElem place inside

theorem length_matchingEnds (pattern : Pattern) (text : Octets) :
    (matchingEnds text pattern).length = text.length + 1 :=
  (tells_matchingEnds pattern text).length_eq

/-- A text without an end loses the longest or the shortest of its ends that a pattern matches, and
nothing if there is none. -/
theorem withoutEnd_cases (pattern : Pattern) (longest : Bool) (text : Octets) :
    (∃ ending, IsExtremeEnd pattern longest text ending ∧
      withoutEnd pattern longest text ++ ending = text) ∨
    (∀ ending, ending <:+ text → ¬ Matches pattern ending) ∧
      withoutEnd pattern longest text = text := by
  have size := length_matchingEnds pattern text
  have unmatched (none : ∀ flag ∈ matchingEnds text pattern, id flag = false) (ending : Octets)
      (suffix : ending <:+ text) : ¬ Matches pattern ending := by
    have inside : text.length - ending.length < (matchingEnds text pattern).length := by omega
    intro matched
    rw [List.suffix_iff_eq_drop.mp suffix] at matched
    have found := (getElem_matchingEnds pattern text inside).mpr matched
    exact Bool.noConfusion (found.symm.trans (none _ (List.getElem_mem inside)))
  unfold withoutEnd
  cases longest with
  | true =>
    dsimp only
    rw [if_pos rfl]
    cases found : (matchingEnds text pattern).findIdx? id with
    | none =>
      exact .inr ⟨unmatched (List.findIdx?_eq_none_iff.mp found), by simp⟩
    | some place =>
      obtain ⟨inside, here, before⟩ := List.findIdx?_eq_some_iff_getElem.mp found
      refine .inl ⟨text.drop place, isExtremeEnd_drop (by omega) ?_ ?_, List.take_append_drop _ _⟩
      · exact (getElem_matchingEnds pattern text inside).mp here
      · intro other within matched
        rw [if_pos rfl]
        refine Nat.le_of_not_lt fun shorter => ?_
        exact before other shorter ((getElem_matchingEnds pattern text (by omega)).mpr matched)
  | false =>
    dsimp only
    rw [if_neg nofun]
    cases found : (matchingEnds text pattern).reverse.findIdx? id with
    | none =>
      refine .inr ⟨unmatched fun flag member => ?_, by simp⟩
      exact List.findIdx?_eq_none_iff.mp found flag (List.mem_reverse.mpr member)
    | some steps =>
      obtain ⟨inside, here, before⟩ := List.findIdx?_eq_some_iff_getElem.mp found
      rw [List.length_reverse] at inside
      simp only [List.getElem_reverse, id_eq] at here before
      refine .inl ⟨text.drop (text.length - steps), isExtremeEnd_drop (by omega) ?_ ?_,
        List.take_append_drop _ _⟩
      · have place : text.length - steps =
          (matchingEnds text pattern).length - 1 - steps := by omega
        rw [place]
        exact (getElem_matchingEnds pattern text _).mp here
      · intro other within matched
        rw [if_neg nofun]
        refine Nat.le_of_not_lt fun longer => before (text.length - other) (by omega) ?_
        have place : (matchingEnds text pattern).length - 1 - (text.length - other) = other := by
          omega
        simp only [place]
        exact (getElem_matchingEnds pattern text (by omega)).mpr matched

/-- A text that is trimmed in front loses the longest or the shortest part in front of it that the
pattern matches, and nothing if there is none. -/
theorem trimText_front_cases (pattern : Pattern) (longest : Bool) (text : Octets) :
    (∃ front, IsExtremeEnd pattern.reverse longest text.reverse front.reverse ∧
      front ++ trimText pattern .front longest text = text) ∨
    (∀ front, front <+: text → ¬ Matches pattern front) ∧
      trimText pattern .front longest text = text := by
  unfold trimText
  rcases withoutEnd_cases pattern.reverse longest text.reverse with
    ⟨ending, extreme, parts⟩ | ⟨unmatched, same⟩
  · refine .inl ⟨ending.reverse, by simpa using extreme, ?_⟩
    have backwards := congrArg List.reverse parts
    simpa using backwards
  · refine .inr ⟨fun front isPrefix matched => ?_, by simp [same]⟩
    exact unmatched front.reverse (List.reverse_suffix.mpr isPrefix) matched.reverse

/-! ### What stands for itself -/

/-- A pattern that is not wild matches one text. -/
theorem matches_iff_of_not_isWild {pattern : Pattern} (plain : pattern.isWild = false)
    (text : Octets) : Matches pattern text ↔ text = pattern.literalText := by
  induction pattern generalizing text with
  | nil => exact matches_nil_iff
  | cons glob pattern inductionHypothesis =>
    obtain ⟨here, later⟩ := Bool.or_eq_false_iff.mp plain
    cases glob with
    | anyChar => cases here
    | anyText => cases here
    | oneOf negated members => cases here
    | literal wanted =>
      have single : Glob.literal wanted ≠ .anyText := nofun
      obtain _ | ⟨char, rest⟩ := text
      · exact ⟨fun matched => absurd matched (not_matches_one_nil single pattern), nofun⟩
      · rw [matches_one_cons_iff single, inductionHypothesis later]
        simp [fits, literalText]

/-- Whether a character of a word stands for itself in a pattern. -/
def IsSettled (mark : Mark) : Prop := mark.quoted = true ∨ mark.char ∉ ['*', '?', '[', '\\']

theorem plainest_of_isSettled {mark : Mark} (settled : IsSettled mark) (rest : List Mark) :
    plainest mark rest = (mark, rest) := by
  unfold plainest
  split
  · rcases settled with isQuoted | noMark
    · cases isQuoted
    · exact absurd (by simp) noMark
  · rfl

theorem go_of_isSettled {marks : List Mark} (settled : ∀ mark ∈ marks, IsSettled mark) {count : Nat}
    (enough : marks.length ≤ count) :
    ofMarks.go count marks = marks.map fun mark => .literal mark.char := by
  induction marks generalizing count with
  | nil => cases count <;> rfl
  | cons mark marks inductionHypothesis =>
    obtain ⟨isSettled, others⟩ := List.forall_mem_cons.mp settled
    obtain _ | count := count
    · cases enough
    · have later := inductionHypothesis others (Nat.le_of_succ_le_succ enough)
      rw [ofMarks.go, plainest_of_isSettled isSettled]
      rcases isSettled with quoted | noMark
      · simp [quoted, later]
      · simp only [List.mem_cons, List.not_mem_nil, or_false, not_or] at noMark
        simp [noMark, later]

/-- A pattern of which every character stands for itself is no pattern at all. -/
theorem ofMarks_of_isSettled {marks : List Mark} (settled : ∀ mark ∈ marks, IsSettled mark) :
    ofMarks marks = marks.map fun mark => .literal mark.char :=
  go_of_isSettled settled (Nat.le_refl _)

/-- A word that was quoted matches itself and nothing else. -/
theorem matchesAll_quoted (word text : Octets) :
    (ofMarks (word.map (⟨·, true⟩))).matchesAll text = true ↔ text = word := by
  have pattern : ofMarks (word.map (⟨·, true⟩)) = word.map .literal := by
    rw [ofMarks_of_isSettled fun mark mem => ?_, List.map_map]
    · rfl
    · obtain ⟨char, -, rfl⟩ := List.mem_map.mp mem
      exact .inl rfl
  have plain : Pattern.isWild (word.map .literal) = false := by simp [isWild]
  have literal : Pattern.literalText (word.map .literal) = word := by
    rw [literalText, List.filterMap_map]
    exact List.filterMap_some
  rw [pattern, matchesAll_iff, matches_iff_of_not_isWild plain, literal]

end ShellSmoke.Shell.Pattern
