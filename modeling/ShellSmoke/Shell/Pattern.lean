/-
This file holds the patterns of the shell: what matches one character, and what matches any number
of them. Characters that were quoted stand for themselves.
-/

import ShellSmoke.Shell.Command

namespace ShellSmoke.Shell

/-- A character of a word, and whether it stands for itself. -/
structure Mark where
  char : Char
  quoted : Bool
deriving DecidableEq, Repr, Inhabited

/-- What a set of characters holds. -/
inductive Member where
  | range (low high : Char)
  /-- The characters of a kind. -/
  | kind (name : String)
deriving DecidableEq, Repr, Inhabited

/-- A part of a pattern. -/
inductive Glob where
  | literal (char : Char)
  | anyChar
  | anyText
  /-- A character that is one of the members, or is none of them. -/
  | oneOf (negated : Bool) (members : List Member)
deriving DecidableEq, Repr, Inhabited

/-- A pattern. -/
abbrev Pattern := List Glob

/-! ### Sets -/

/-- The kinds of characters that a set can name. -/
def characterKinds : List (String × (Char → Bool)) :=
  let isPunctuation (char : Char) : Bool := '!' ≤ char && char ≤ '~' && ! char.isAlphanum
  [("alnum", Char.isAlphanum), ("alpha", Char.isAlpha),
    ("blank", fun char => char = ' ' || char = '\t'),
    ("cntrl", fun char => char < ' ' || char = '\x7f'), ("digit", Char.isDigit),
    ("graph", fun char => '!' ≤ char && char ≤ '~'), ("lower", Char.isLower),
    ("print", fun char => ' ' ≤ char && char ≤ '~'), ("punct", isPunctuation),
    ("space", fun char => char = ' ' || ('\t' ≤ char && char ≤ '\x0d')),
    ("upper", Char.isUpper),
    ("xdigit", fun char => char.isDigit || ('a' ≤ char && char ≤ 'f') ||
      ('A' ≤ char && char ≤ 'F'))]

/-- The byte of a character as a number with a sign. -/
def signedByte (char : Char) : Int :=
  if char.toNat < 128 then char.toNat else (char.toNat : Int) - 256

/-- Whether a member of a set is a character, or holds it. Ranges go by bytes with signs. -/
def Member.holds (char : Char) : Member → Bool
  | range low high =>
    decide (signedByte low ≤ signedByte char) && decide (signedByte char ≤ signedByte high)
  | kind name => (characterKinds.lookup name).any fun holds => holds char

namespace Pattern

/-- The kind that a set names after a bracket, and what follows its name. Letters in the name can be
quoted. -/
def kind? (marks : List Mark) : Option (String × List Mark) :=
  (characterKinds.map (·.1)).findSome? fun name =>
    let spelling := ':' :: name.toList ++ [':', ']']
    let front := marks.take spelling.length
    let plain := front.all fun mark => mark.char.isAlpha || ! mark.quoted
    if front.map (·.char) = spelling ∧ plain then some (name, marks.drop spelling.length) else none

/-- A character, of which a backslash in front takes the meaning, and what follows it. -/
def plainest (mark : Mark) (rest : List Mark) : Mark × List Mark :=
  match mark, rest with
  | ⟨'\\', false⟩, next :: rest => (⟨next.char, true⟩, rest)
  | _, _ => (mark, rest)

/-- The members of a set up to the bracket that ends it, and what follows; nothing if no bracket
does. A bracket that is the first of the members is one of them. The count bounds how many there
are. -/
def setMembers? : (count : Nat) → List Member → List Mark → Option (List Member × List Mark)
  | 0, _, _ => none
  | _ + 1, _, [] => none
  | count + 1, members, first :: rest =>
    if first = ⟨']', false⟩ ∧ ¬ members.isEmpty then some (members, rest)
    else
      match if first = ⟨'[', false⟩ then kind? rest else none with
      | some (name, rest) => setMembers? count (.kind name :: members) rest
      | none =>
        let (⟨low, _⟩, rest) := plainest first rest
        match rest with
        | ⟨'-', false⟩ :: last :: more =>
          if last = ⟨']', false⟩ then setMembers? count (.range low low :: members) rest
          else
            let (⟨high, _⟩, more) := plainest last more
            setMembers? count (.range low high :: members) more
        | _ => setMembers? count (.range low low :: members) rest

/-- A set whose bracket was read, and what follows it. -/
def set? (marks : List Mark) : Option (Glob × List Mark) :=
  let (negated, marks) := match marks with
    | ⟨'!', false⟩ :: rest => (true, rest)
    | rest => (false, rest)
  (setMembers? (marks.length + 1) [] marks).map fun (members, more) =>
    (.oneOf negated members, more)

/-! ### Patterns -/

/-- The pattern of a word. Every part takes at least one character, so the length bounds the number
of parts. -/
def ofMarks (marks : List Mark) : Pattern := go marks.length marks
where
  go : Nat → List Mark → Pattern
    | 0, _ => []
    | _ + 1, [] => []
    | count + 1, mark :: rest =>
      let (⟨char, quoted⟩, rest) := plainest mark rest
      if quoted then .literal char :: go count rest
      else if char = '*' then .anyText :: go count rest
      else if char = '?' then .anyChar :: go count rest
      else if char = '[' then
        match set? rest with
        | some (glob, more) => glob :: go count more
        | none => .literal char :: go count rest
      else .literal char :: go count rest

/-- Whether a part of a pattern that is not any text matches a character. -/
def fits (glob : Glob) (char : Char) : Bool :=
  match glob with
  | .literal wanted => char = wanted
  | .anyChar => true
  | .anyText => true
  | .oneOf negated members => members.any (Member.holds char) != negated

/-- Which of the ends of a text, longest first, a pattern matches, if one part of it is any text:
those that have an end which the rest of the pattern matches. -/
def whereSome : List Bool → List Bool
  | [] => []
  | here :: shorter =>
    let shorter := whereSome shorter
    (here || shorter.headD false) :: shorter

/-- Which of the ends of a text, longest first, a pattern matches whose first part takes one
character, given those that the rest of the pattern matches. -/
def whereFits (glob : Glob) : Octets → List Bool → List Bool
  | char :: text, _ :: shorter =>
    (fits glob char && shorter.headD false) :: whereFits glob text shorter
  | _, _ => [false]

/-- Which of the ends of a text, longest first, a pattern matches. The last of them is empty. -/
def matchingEnds (text : Octets) : Pattern → List Bool
  | [] => List.replicate text.length false ++ [true]
  | .anyText :: pattern => whereSome (matchingEnds text pattern)
  | glob :: pattern => whereFits glob text (matchingEnds text pattern)

/-- Whether a pattern matches a whole text. -/
def matchesAll (pattern : Pattern) (text : Octets) : Bool :=
  (matchingEnds text pattern).headD false

/-- Whether a pattern matches anything but one text. -/
def isWild (pattern : Pattern) : Bool :=
  pattern.any fun
    | .literal _ => false
    | _ => true

/-- The text that a pattern matches if it is not wild. -/
def literalText (pattern : Pattern) : Octets :=
  pattern.filterMap fun
    | .literal char => some char
    | _ => none

/-! ### Trimming -/

/-- A text without the shortest or the longest of its ends that a pattern matches. -/
def withoutEnd (pattern : Pattern) (longest : Bool) (text : Octets) : Octets :=
  let found := matchingEnds text pattern
  let count? := if longest then found.findIdx? id
    else (found.reverse.findIdx? id).map (text.length - ·)
  text.take (count?.getD text.length)

/-- A text without a part at one end that a pattern matches: the shortest or the longest. The front
of a text is the end of the text backwards. -/
def trimText (pattern : Pattern) (edge : Edge) (longest : Bool) (text : Octets) : Octets :=
  match edge with
  | .back => withoutEnd pattern longest text
  | .front => (withoutEnd pattern.reverse longest text.reverse).reverse

/-! ### Trimming arguments that are joined -/

/-- A text up to the first zero byte in it, which keeps arguments apart. -/
def firstPart (text : Octets) : Octets := text.takeWhile (· ≠ '\x00')

/-- The sign in front of a character that is kept apart from what it can mean. -/
def guardSign : Char := '\x81'

/-- The sign where a quotation begins or ends. -/
def quoteSign : Char := '\x88'

/-- Whether a character is kept apart from what it can mean in a pattern. -/
def isGuarded (quoted : Bool) (char : Char) : Bool :=
  (guardSign ≤ char && char ≤ quoteSign) ||
    (quoted && ['!', '*', '?', '[', ']', '=', '~', ':', '/', '-', '\\'].contains char)

/-- A text with a sign in front of each character that is kept apart. -/
def guarded (quoted : Bool) (text : Octets) : Octets :=
  text.flatMap fun char => if isGuarded quoted char then [guardSign, char] else [char]

/-- A pattern with signs as it is used: backslashes take the place of signs in front of characters,
but for a character that follows a backslash. -/
def withBackslashes : (signed : Octets) → Octets
  | [] => []
  | '\x88' :: rest => withBackslashes rest
  | '\\' :: '\x81' :: char :: rest => '\\' :: char :: withBackslashes rest
  | '\\' :: char :: rest =>
    if char = quoteSign then '\\' :: withBackslashes rest
    else '\\' :: withBackslashes (char :: rest)
  | '\x81' :: char :: rest => '\\' :: char :: withBackslashes rest
  | char :: rest => char :: withBackslashes rest
termination_by signed => signed.length
decreasing_by all_goals simp_wf; try omega

/-- What is found where a pattern with signs was: the pattern as it is used, and after its end what
it does not cover. -/
def remains (signed : Octets) : Octets :=
  let used := withBackslashes signed
  if used.length < signed.length then used ++ '\x00' :: signed.drop (used.length + 1) else used

/-- Whether a text has several parts, and characters in the first part are kept apart: a search from
the right goes through the first part then as if it ended where the text does, and on into what was
written down before, which is the whole text and the pattern. -/
def isShifted (quoted : Bool) (text : Octets) : Bool :=
  let first := firstPart text
  first.length < text.length && first.any (isGuarded quoted)

/-- Whether the longest part in front is found at so many steps from the right, where the first part
stands for the text. A pattern into which the search comes ends there, and is compared with the
first part as a whole. -/
def isFrontAt (marks : List Mark) (signed first : Octets) (steps : Nat) : Bool :=
  if steps ≤ first.length then matchesAll (ofMarks marks) (first.take (first.length - steps))
  else
    let seen := (withBackslashes signed).take (signed.length + first.length + 1 - steps)
    matchesAll (ofMarks (seen.map (⟨·, false⟩))) first

/-- Where the longest part of a text in front ends that a pattern matches. -/
def longestFront (marks : List Mark) (signed : Octets) (quoted : Bool) (text : Octets) : Nat :=
  let searched := guarded quoted text
  let isFound (steps : Nat) : Bool :=
    if isShifted quoted text then isFrontAt marks signed (firstPart text) steps
    else matchesAll (ofMarks marks) (firstPart (searched.take (searched.length - steps)))
  (((List.range (text.length + 1)).find? isFound).map (text.length - ·)).getD 0

/-- The texts at the places of a text from the right, up to its end or the next zero byte. -/
def suffixes (signed : Octets) (quoted : Bool) (text : Octets) : List Octets :=
  let written := guarded quoted text
  let searched := if isShifted quoted text then
      written ++ '\x00' :: remains signed ++ '\x00' :: firstPart text
    else written
  (List.range (text.length + 1)).map fun steps =>
    firstPart (searched.drop (searched.length - steps))

/-- Several parts, with zero bytes between them, without what a pattern matches at one end. A search
from the left looks at the first part only, and a match ends at a zero byte wherever it begins. The
pattern is also given with signs, as the shell keeps it. -/
def trimParts (marks : List Mark) (signed : Octets) (edge : Edge) (longest quoted : Bool)
    (text : Octets) : Octets :=
  let fits (part : Octets) : Bool := matchesAll (ofMarks marks) (firstPart part)
  let rightward := List.range ((firstPart text).length + 1)
  match edge, longest with
  | .front, false => text.drop ((rightward.find? fun place => fits (text.take place)).getD 0)
  | .front, true => text.drop (longestFront marks signed quoted text)
  | .back, false =>
    text.take (text.length - ((suffixes signed quoted text).findIdx? fits).getD 0)
  | .back, true =>
    text.take ((rightward.find? fun place => fits (text.drop place)).getD text.length)

/-- A text without what a pattern matches at one end, the shortest or the longest such part. -/
def trim (marks : List Mark) (signed : Octets) (edge : Edge) (longest quoted : Bool)
    (text : Octets) : Octets :=
  if text.contains '\x00' then trimParts marks signed edge longest quoted text
  else trimText (ofMarks marks) edge longest text

end Pattern

end ShellSmoke.Shell
