/-
This file measures how alike two words are, by Jaro's rule. Equal characters are matched if their
places differ by less than half the length of the longer word; the measure is the mean of the
matched share of the first word, the matched share of the second, and the share of the matches that
stand in the same order. It is reckoned in numbers of 53 binary places, with every step rounded: two
words that are exactly seven tenths alike may come out on either side of that bound.
-/

import ShellSmoke.Decimal

namespace ShellSmoke.Text

namespace Similarity

/-- A character of the second word, and whether it has been matched. -/
abbrev Slot := Char × Bool

/-- Matches a character with the first equal free slot whose place lies between two bounds, the
upper one excluded. The place of the first slot is given. -/
def claim (char : Char) (low high : Nat) (place : Nat) : List Slot → Option (List Slot)
  | [] => none
  | (other, taken) :: rest =>
    if high ≤ place then none
    else if low ≤ place ∧ other = char ∧ ¬ taken then some ((other, true) :: rest)
    else (claim char low high (place + 1) rest).map ((other, taken) :: ·)

/-- Matches the characters of the first word from left to right: those that found a partner, latest
first, and the slots of the second word. -/
def pair (reach : Nat) (first : List Char) (second : List Char) : List Char × List Slot :=
  first.zipIdx.foldl (fun (matched, slots) (char, place) =>
      match claim char (place - reach) (place + reach + 1) 0 slots with
      | some slots => (char :: matched, slots)
      | none => (matched, slots))
    ([], second.map (·, false))

end Similarity

/-- A fraction, rounded to 53 binary places. -/
def roundedShare (fraction : Fraction) : Fraction :=
  (Decimal.nearest fraction).1.getD fraction

/-- The similarity of two words. -/
def similarity (first second : List Char) : Fraction :=
  let reach := max first.length second.length / 2 - 1
  let (matchedFirst, slots) := Similarity.pair reach first second
  let matchedSecond := (slots.filter (·.2)).map (·.1)
  let matched := matchedFirst.length
  let moved := (matchedFirst.reverse.zip matchedSecond).countP fun (one, other) => one ≠ other
  if first.isEmpty ∧ second.isEmpty then ⟨1, 1⟩
  else if matched = 0 then ⟨0, 1⟩
  else
    let shares := roundedShare ((roundedShare ⟨matched, first.length⟩).plus
      (roundedShare ⟨matched, second.length⟩))
    let sum := roundedShare (shares.plus (roundedShare ⟨matched - moved / 2, matched⟩))
    roundedShare ⟨sum.numerator, sum.denominator * 3⟩

/-- The similarity above which a word is worth a tip. -/
def tipBound : Fraction := roundedShare ⟨7, 10⟩

/-- The candidate that is most like a word, if any is more than seven tenths alike; of equally good
ones the last. -/
def mostSimilar? {α : Type} (word : List Char) (candidates : List (List Char × α)) : Option α :=
  let best := candidates.foldl (fun best (name, candidate) =>
      let score := similarity word name
      if tipBound.below score then
        match best with
        | some (other, kept) =>
          if score.below other then some (other, kept) else some (score, candidate)
        | none => some (score, candidate)
      else best)
    (none : Option (Fraction × α))
  best.map (·.2)

end ShellSmoke.Text
