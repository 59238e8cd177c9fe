/-
This file says what it is to keep a log. The program hands the text of a filter, its environment and
its records to a library that keeps the log for it, and knows no more of that library than what is
said here: which events a filter lets through depends on the span of an event and on what is known
of the event apart from its values, and a library may have something to say about the text of a
filter before anything happens.
-/

import ShellSmoke.Log.Event
import ShellSmoke.Settings

namespace ShellSmoke.Log

/-- A library that keeps logs. -/
structure Library where
  /-- What is said about the text of a filter, as soon as it is read. -/
  remarks : (filter : String) → String
  /-- Whether a filter lets an event through that happens inside a span, or inside none. -/
  admits : (filter : String) → Option Span → Metadata → Bool
  /-- The line for a record that was made at a time. The environment can only change its looks. -/
  line : (filter : String) → Environment → (stamp : String) → Record → String

/-- The log of one call of the program. -/
structure Journal where
  remarks : String
  admits : Option Span → Metadata → Bool
  line : Record → String

/-- Begins a log, with the filter that the environment asks for. -/
def Library.begin (library : Library) (environment : Environment) (stamp : String) : Journal :=
  let filter := Settings.logFilter environment
  ⟨library.remarks filter, library.admits filter, library.line filter environment stamp⟩

namespace Journal

/-- The lines for the records that get through. -/
def lines (journal : Journal) (records : List Record) : List String :=
  (records.filter fun record => journal.admits record.span record.event.metadata).map journal.line

/-- All that is said of some records, after what is said about the filter. -/
def pages (journal : Journal) (records : List Record) : List String :=
  journal.remarks :: journal.lines records

end Journal

end ShellSmoke.Log
