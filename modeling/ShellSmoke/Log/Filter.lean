/-
This file holds filters of a plain kind, which know levels and sources. A filter is a list of
directives; of those that name a part of the library as the event's, the one with the longest name
decides.
-/

import ShellSmoke.Log.Event

namespace ShellSmoke.Log

/-- A rule of a filter: events of sources whose name begins so are shown down to a level, or not at
all. -/
structure Directive where
  source : String
  floor : Option Level
deriving DecidableEq, Repr, Inhabited

/-- The directives of a filter. -/
structure Filter where
  directives : List Directive
deriving DecidableEq, Repr, Inhabited

namespace Filter

/-- The level that a word names, in any case or by its number; `off` names none. -/
def readFloor? (word : String) : Option (Option Level) :=
  let lowered := word.map Char.toLower
  if lowered = "off" ∨ lowered = "0" then some none
  else
    (Level.all.find? fun level =>
      lowered = level.name.map Char.toLower ∨ lowered = toString level.rank).map some

/-- Whether a word can name a source. -/
def isSourceName (word : String) : Bool :=
  ¬ word.isEmpty ∧ word.all fun char => char.isAlphanum || char = '_' || char = ':' || char = '-'

/-- The name that a directive has for a source; the name of a level stands for all sources. -/
def sourceOf (word : String) : String := if (readFloor? word).isSome then "" else word

/-- The directive that a part of a filter's text gives: a level for everything, a source with its
level, or a source alone, of which all is shown. -/
def readDirective? (part : String) : Option Directive :=
  match part.splitOn "=" with
  | [word] =>
    match readFloor? word with
    | some floor => some ⟨"", floor⟩
    | none => if isSourceName word then some ⟨word, some .trace⟩ else none
  | [source, word] =>
    if ¬ isSourceName source then none
    else if word.isEmpty then some ⟨sourceOf source, some .trace⟩
    else (readFloor? word).map fun floor => ⟨sourceOf source, floor⟩
  | _ => none

/-- The parts of a filter's text, which are set apart by commas. -/
def parts (text : String) : List String := (text.splitOn ",").filter fun part => ¬ part.isEmpty

/-- The filter of a text; parts that make no sense are passed over. -/
def ofText (text : String) : Filter := ⟨(parts text).filterMap readDirective?⟩

/-- What is said about the parts of a text that are passed over. -/
def remarks (text : String) : String :=
  String.join (((parts text).filter fun part => (readDirective? part).isNone).map fun part =>
    "ignoring " ++ "\x60" ++ part ++ "\x60: invalid filter directive\n")

/-- The directive that decides about a source. -/
def deciding? (filter : Filter) (source : Source) : Option Directive :=
  let fitting := filter.directives.filter fun directive =>
    directive.source.toList.isPrefixOf source.name.toList
  fitting.foldl (fun best directive =>
      match best with
      | none => some directive
      | some other =>
        if other.source.length ≤ directive.source.length then some directive else some other)
    none

/-- Whether a filter shows what a source reports at a level. -/
def shows (filter : Filter) (source : Source) (level : Level) : Bool :=
  match (filter.deciding? source).bind (·.floor) with
  | some floor => level.rank ≤ floor.rank
  | none => false

end Filter

end ShellSmoke.Log
