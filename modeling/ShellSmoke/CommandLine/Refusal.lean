/-
This file holds the reasons for which a command line is refused.
-/

import ShellSmoke.CommandLine.Options

namespace ShellSmoke.CommandLine

/-- Why a command line is refused. -/
inductive Refusal where
  /-- A word that is no option, nor a value that an option waits for. -/
  | unknownWord (word : String)
  /-- A word that looks like a long option and is none: the option it resembles, and the options
  started before it. -/
  | unknownOption (word : String) (similar : Option Switch) (started : List Switch)
  /-- An option that takes no value was given one; `first` tells that no option was finished before
  it. -/
  | unexpectedValue (switch : Switch) (value : String) (first : Bool)
  /-- An option that takes a value was given none, or an empty one. -/
  | missingValue (switch : Switch)
  /-- A value that is not among those possible, and the one it resembles. -/
  | invalidScore (value : String) (similar : Option MaxScore)
  /-- An option was used a second time. -/
  | repeated (switch : Switch)
deriving DecidableEq, Repr, Inhabited

/-- Why reading a command line stopped before it gave options. -/
inductive Stop where
  | help
  | version
  | refused (refusal : Refusal)
deriving DecidableEq, Repr, Inhabited

/-- The kinds of stops that callers tell apart. -/
inductive Stop.Kind where
  | displayHelp
  | displayVersion
  /-- Something on the line is no option and no value. -/
  | unknownArgument
  /-- An option that takes no value has one. -/
  | tooManyValues
  /-- An option has no value, or one that it cannot have. -/
  | invalidValue
  /-- An option was used a second time. -/
  | argumentConflict
deriving DecidableEq, Repr, Inhabited

/-- The kind of a refusal. -/
def Refusal.kind : Refusal → Stop.Kind
  | unknownWord _ => .unknownArgument
  | unknownOption _ _ _ => .unknownArgument
  | unexpectedValue _ _ _ => .tooManyValues
  | missingValue _ => .invalidValue
  | invalidScore _ _ => .invalidValue
  | repeated _ => .argumentConflict

/-- The kind of a stop. -/
def Stop.kind : Stop → Stop.Kind
  | help => .displayHelp
  | version => .displayVersion
  | refused refusal => refusal.kind

/-- The exit status of the program where its command line stops it. -/
def Stop.exitCode : Stop → Nat
  | help => 0
  | version => 0
  | refused _ => 2

/-- Whether the message about a stop belongs on the stream for errors. -/
def Stop.onErrorStream : Stop → Bool
  | help => false
  | version => false
  | refused _ => true

end ShellSmoke.CommandLine
