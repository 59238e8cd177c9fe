/-
This file says which command lines there are, without reading one: a line is a sequence of items,
each item has a spelling and binds options, and no option is bound twice.
-/

import ShellSmoke.CommandLine.Options

namespace ShellSmoke.CommandLine

/-! ### Bindings -/

/-- An option with the value it is given. -/
inductive Binding where
  | executable (path : Bytes)
  | results (path : Bytes)
  | withoutChecks
  | max (score : MaxScore)
  | dryRun
deriving DecidableEq, Repr, Inhabited

namespace Binding

/-- The option that is bound. -/
def switch : Binding → Switch
  | executable _ => .executable
  | results _ => .results
  | withoutChecks => .withoutChecks
  | max _ => .max
  | dryRun => .dryRun

/-- The options after one was bound. -/
def apply (options : Options) : Binding → Options
  | executable path => { options with executable := path }
  | results path => { options with results := some path }
  | withoutChecks => { options with withoutChecks := true }
  | max score => { options with max := score }
  | dryRun => { options with dryRun := true }

end Binding

/-- The options that bindings leave; what is not bound has its standard value. -/
def Options.ofBindings (bindings : List Binding) : Options :=
  bindings.foldl Binding.apply Options.standard

/-! ### Items -/

/-- An option whose value is a path. -/
inductive PathOption where
  | executable
  | results
deriving DecidableEq, Repr, Inhabited

namespace PathOption

/-- The letter of the option. -/
def letter : PathOption → UInt8
  | executable => 'e'.toUInt8
  | results => 'r'.toUInt8

/-- The option bound to a path. -/
def bind (path : Bytes) : PathOption → Binding
  | executable => .executable path
  | results => .results path

end PathOption

/-- A single dash, which begins every option. -/
def dash : UInt8 := '-'.toUInt8

/-- A short word: a dash, so many letters `t`, and an ending. -/
def cluster (flags : Nat) (ending : Bytes) : Bytes :=
  dash :: List.replicate flags 't'.toUInt8 ++ ending

/-- Whether a word can be the value of the option before it: a dash alone, or a word that does not
begin with one. -/
def StandsAlone (word : Bytes) : Prop := word = [dash] ∨ word.head? ≠ some dash

/-- The value that is attached to a letter by what follows it in its word: one equals sign in front
does not belong to it. -/
def attachedValue (ending : Bytes) : Bytes :=
  if ending.head? = some '='.toUInt8 then ending.tail else ending

/-- The words of an item, and what they bind. -/
inductive Item : List Bytes → List Binding → Prop where
  | dryRun : Item [Bytes.ofString "--dry-run"] [.dryRun]
  | maxAttached (score : MaxScore) : Item [Bytes.ofString ("--max=" ++ score.text)] [.max score]
  | maxSeparate (score : MaxScore) :
      Item [Bytes.ofString "--max", Bytes.ofString score.text] [.max score]
  | flags (more : Nat) :
      Item [cluster (more + 1) []] (List.replicate (more + 1) .withoutChecks)
  | pathAttached (flags : Nat) (option : PathOption) (ending : Bytes) (given : ending ≠ [])
      (named : attachedValue ending ≠ []) :
      Item [cluster flags (option.letter :: ending)]
        (List.replicate flags .withoutChecks ++ [option.bind (attachedValue ending)])
  | pathSeparate (flags : Nat) (option : PathOption) (path : Bytes) (named : path ≠ [])
      (alone : StandsAlone path) :
      Item [cluster flags [option.letter], path]
        (List.replicate flags .withoutChecks ++ [option.bind path])

/-! ### Lines -/

/-- The words of a sequence of items, and what they bind. -/
inductive Items : List Bytes → List Binding → Prop where
  | none : Items [] []
  | cons {words more : List Bytes} {bindings others : List Binding} (item : Item words bindings)
      (items : Items more others) : Items (words ++ more) (bindings ++ others)

/-- The words of a line, and what they bind: items, and perhaps a last word that ends the options.
No option is bound twice. -/
def Line (words : List Bytes) (bindings : List Binding) : Prop :=
  (Items words bindings ∨ ∃ front, words = front ++ [[dash, dash]] ∧ Items front bindings) ∧
    (bindings.map Binding.switch).Nodup

/-- Whether a command line asks for these options. -/
def Asks (words : List Bytes) (options : Options) : Prop :=
  ∃ bindings, Line words bindings ∧ options = Options.ofBindings bindings

end ShellSmoke.CommandLine
