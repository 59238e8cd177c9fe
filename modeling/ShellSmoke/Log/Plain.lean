/-
This file holds a library that keeps logs plainly: it knows filters of levels and sources, of which
nothing else than the level and the source of an event matters, and its lines have no colors.
-/

import ShellSmoke.Log.Filter
import ShellSmoke.Log.Journal

namespace ShellSmoke.Log

/-- A name with its value. -/
def fieldText (field : String × String) : String := field.1 ++ "=" ++ field.2

/-- The text of a span. -/
def Span.text (span : Span) : String :=
  name ++ "\x7b" ++ String.intercalate " " (span.fields.map fieldText) ++ "\x7d"

/-- The name of a level, to the right of five columns. -/
def Level.column (level : Level) : String :=
  "".pushn ' ' (5 - level.name.length) ++ level.name

/-- The line of a record: when it was made, its level, the span it was made in if the filter shows
spans, its source, and what it says. -/
def Record.line (filter : Filter) (stamp : String) (record : Record) : String :=
  let span := match record.span.filter fun _ => filter.shows Span.source Span.level with
    | some span => span.text ++ ": "
    | none => ""
  stamp ++ " " ++ record.event.level.column ++ " " ++ span ++ record.event.source.name ++ ": " ++
    String.intercalate " " (record.event.message :: record.event.fields.map fieldText) ++ "\n"

/-- The plain library. -/
def Library.plain : Library where
  remarks := Filter.remarks
  admits filter _ metadata := (Filter.ofText filter).shows metadata.source metadata.level
  line filter _ := Record.line (.ofText filter)

end ShellSmoke.Log
