/-
This file holds the commands of the shell as trees.
-/

import ShellSmoke.Machine.Program
import ShellSmoke.Shell.Octets

namespace ShellSmoke.Shell

open Machine

/-- What a substitution does when its variable is not set. -/
inductive Fallback where
  /-- The word takes the place of the value. -/
  | use
  /-- The word takes the place of the value, and becomes it. -/
  | assign
  /-- The word is the message with which the shell gives up. -/
  | complain
  /-- Nothing takes the place of the value; the word does if the variable is set. -/
  | replace
deriving DecidableEq, Repr, Inhabited

/-- An end of a text. -/
inductive Edge where
  | front
  | back
deriving DecidableEq, Repr, Inhabited

mutual

/-- A part of a word. -/
inductive Fragment where
  /-- Text as it stands; it can hold patterns. -/
  | plain (text : Octets)
  /-- Text that stands for itself because backslashes say so. -/
  | quoted (text : Octets)
  /-- What stands between quotes. -/
  | grouped (fragments : List Fragment)
  /-- The value of a parameter. -/
  | parameter (name : Octets)
  /-- The length of the value of a parameter. -/
  | measured (name : Octets)
  /-- The value of a parameter, or something else if it is not set, or if it is empty. -/
  | defaulted (name : Octets) (fallback : Fallback) (orEmpty : Bool) (word : List Fragment)
  /-- The value of a parameter without what a pattern matches at one end. -/
  | trimmed (name : Octets) (edge : Edge) (longest : Bool) (pattern : List Fragment)
  /-- A substitution that makes no sense. -/
  | senseless
  /-- The output of commands. -/
  | commands (body : List Statement)
  /-- The value of an expression. -/
  | arithmetic (expression : List Fragment)

/-- A change of a descriptor. -/
inductive Redirection where
  /-- A file; one that is there already may be protected against being written, unless that is
  wanted all the same. -/
  | toFile (descriptor : Nat) (mode : OpenMode) (regardless : Bool) (path : List Fragment)
  /-- What another descriptor stands for. -/
  | toDescriptor (descriptor source : Nat)
  /-- What the descriptor stands for whose digit a word becomes; a word `-` closes the descriptor.
  -/
  | toNamed (descriptor : Nat) (source : List Fragment)
  /-- The text of the script itself. -/
  | fromText (descriptor : Nat) (text : List Fragment)

/-- A command. -/
inductive Command where
  /-- Assignments, words and redirections, with the line on which they stand. -/
  | simple (line : Nat) (assignments : List (Octets × List Fragment))
      (words : List (List Fragment)) (redirections : List Redirection)
  /-- A compound command with its redirections, and the line on which it begins. -/
  | compound (line : Nat) (body : Compound) (redirections : List Redirection)
  /-- The definition of a function. -/
  | define (name : Octets) (body : Command)

/-- A command made of commands. -/
inductive Compound where
  | group (body : List Statement)
  /-- Commands for a process of their own. -/
  | subshell (body : List Statement)
  /-- The first branch whose condition holds, or else the last commands. -/
  | choose (branches : List (List Statement × List Statement)) (otherwise : List Statement)
  /-- The body again and again, while the condition comes out as it should. -/
  | loop (whenTrue : Bool) (condition body : List Statement)
  /-- The body for each word; without words, for each argument. -/
  | each (name : Octets) (words : Option (List (List Fragment))) (body : List Statement)
  /-- The first arm one of whose patterns matches the word. -/
  | select (word : List Fragment) (arms : List (List (List Fragment) × List Statement))

/-- Commands whose outputs are the inputs of the next. -/
inductive Pipeline where
  | mk (negated : Bool) (commands : List Command)

/-- Pipelines, each of which runs if the one before it came out as it should: `true` stands for
success. -/
inductive Statement where
  | mk (first : Pipeline) (rest : List (Bool × Pipeline)) (background : Bool)

end

instance : Inhabited Fragment := ⟨.plain []⟩
instance : Inhabited Command := ⟨.simple 0 [] [] []⟩
instance : Inhabited Pipeline := ⟨.mk false []⟩
instance : Inhabited Statement := ⟨.mk default [] false⟩

/-- The names that no function can have: those of the commands for which an error ends the shell. -/
def Command.specialNames : List String :=
  [":", ".", "break", "continue", "eval", "exec", "exit", "export", "readonly", "return", "set",
    "shift", "times", "trap", "unset"]

/-- Whether messages name the line of a compound command while its own words are expanded. -/
def Compound.movesLine : Compound → Bool
  | each _ _ _ | select _ _ => true
  | _ => false

/-- The parts of a word. -/
abbrev Word := List Fragment

end ShellSmoke.Shell
