/-
This file reads command lines. Words are read from left to right. An option whose value is the next
word stays open until the next option is recognised or the line ends; what is wrong with it appears
only then, and is passed over if a word that nothing can be made of comes first. All else is settled
as soon as it is read.
-/

import ShellSmoke.CommandLine.Refusal
import ShellSmoke.Text.Lossy
import ShellSmoke.Text.Similarity

namespace ShellSmoke.CommandLine

/-! ### The state of the reader -/

/-- An option that takes the next word, and that word once it was read. -/
structure Open where
  switch : Switch
  value : Option Bytes
deriving DecidableEq, Repr, Inhabited

/-- What has been read of a command line. -/
structure Reader where
  /-- The options as settled so far. -/
  options : Options
  /-- The switches finished so far, in order. -/
  started : List Switch
  /-- The option that is still open. -/
  pending : Option Open
  /-- Whether the word `--` has ended the options. -/
  ended : Bool
deriving DecidableEq, Repr, Inhabited

namespace Reader

/-- The reader before the first word. -/
def start : Reader := ⟨Options.standard, [], none, false⟩

/-! ### Finishing options -/

/-- The ceiling that a value names. -/
def readScore (value : Bytes) : Except Refusal MaxScore :=
  match (Text.decodeStrict? value).bind MaxScore.ofText? with
  | some score => .ok score
  | none =>
    if value.isEmpty then .error (.missingValue .max)
    else
      .error (.invalidScore (Text.decode value)
        (Text.mostSimilar? (Text.decodeChars value)
          (MaxScore.all.map fun score => (score.text.toList, score))))

/-- Sets the option of a switch to a value; a switch without a value is set by being there. -/
def bind (options : Options) (switch : Switch) (value : Bytes) : Except Refusal Options :=
  match switch with
  | .executable =>
    if value.isEmpty then .error (.missingValue .executable)
    else .ok { options with executable := value }
  | .results =>
    if value.isEmpty then .error (.missingValue .results)
    else .ok { options with results := some value }
  | .max => (readScore value).map fun score => { options with max := score }
  | .withoutChecks => .ok { options with withoutChecks := true }
  | .dryRun => .ok { options with dryRun := true }
  | .help => .ok options
  | .version => .ok options

/-- Finishes an option: it must have the value it takes, be new, and have a value that is
possible, and these are looked at in this order. -/
def finish (reader : Reader) (switch : Switch) (value : Option Bytes) : Except Refusal Reader :=
  if switch.takesValue ∧ value.isNone then .error (.missingValue switch)
  else if switch ∈ reader.started then .error (.repeated switch)
  else
    (bind reader.options switch (value.getD [])).map fun options =>
      { reader with options, started := reader.started ++ [switch] }

/-- Finishes the open option, if there is one. -/
def settle (reader : Reader) : Except Refusal Reader :=
  match reader.pending with
  | none => .ok reader
  | some opened => finish { reader with pending := none } opened.switch opened.value

/-- The options that a word past all understanding finds started: also the open one if it has its
value, whatever that is worth; but a second use takes the option off the list. -/
def startedSoFar (reader : Reader) : List Switch :=
  match reader.pending with
  | some ⟨switch, some _⟩ =>
    if switch ∈ reader.started then reader.started.erase switch else reader.started ++ [switch]
  | _ => reader.started

/-! ### Reading words -/

/-- Recognises an option: the open one is finished first. Help and version act at once, a switch
without a value is finished, and one that takes a value is opened. -/
def recognise (reader : Reader) (switch : Switch) : Except Stop Reader := do
  let reader ← reader.settle.mapError .refused
  match switch with
  | .help => .error .help
  | .version => .error .version
  | _ =>
    if switch.takesValue then .ok { reader with pending := some ⟨switch, none⟩ }
    else (reader.finish switch none).mapError .refused

/-- Recognises an option with the value that is attached to it. -/
def recogniseAttached (reader : Reader) (switch : Switch) (value : Bytes) :
    Except Stop Reader :=
  (do let reader ← reader.settle; reader.finish switch (some value)).mapError .refused

/-- The long names and their options, as candidates for a word that resembles one. -/
def longNames : List (List Char × Switch) :=
  Switch.all.filterMap fun switch => switch.name?.map fun name => (name.toList, switch)

/-- Reads what follows the two dashes of a long option. -/
def readLong (reader : Reader) (body : Bytes) : Except Stop Reader :=
  let equals := '='.toUInt8
  let name := body.takeWhile (· ≠ equals)
  let attached := (body.dropWhile (· ≠ equals)).tail?
  match Switch.ofName? name, attached with
  | some switch, none => reader.recognise switch
  | some switch, some value =>
    if switch.takesValue then reader.recogniseAttached switch value
    else
      .error (.refused (.unexpectedValue switch (Text.decode value) reader.started.isEmpty))
  | none, _ =>
    .error (.refused (.unknownOption ("--" ++ Text.decode name)
      (Text.mostSimilar? (Text.decodeChars name) longNames) reader.startedSoFar))

/-- The word for the first letter of a cluster; letters that are not UTF-8 are shown together. -/
def unknownLetter (letters : Bytes) : String :=
  "-" ++ match Text.leading? letters with
    | some char => toString char
    | none => Text.decode letters

/-- Reads the letters after a single dash. A letter that takes a value has the rest of the word for
it, less one leading `=`, and waits for the next word if there is no rest. -/
def readLetters (reader : Reader) : Bytes → Except Stop Reader
  | [] => .ok reader
  | byte :: rest =>
    match Switch.ofLetter? (Char.ofUInt8 byte) with
    | none => .error (.refused (.unknownWord (unknownLetter (byte :: rest))))
    | some switch =>
      if switch.takesValue ∧ ¬ rest.isEmpty then
        let value := if rest.head? = some '='.toUInt8 then rest.tail else rest
        reader.recogniseAttached switch value
      else do
        let reader ← reader.recognise switch
        reader.readLetters rest

/-- Reads a word that is no option: the value of the open option if it waits for one. -/
def readPlain (reader : Reader) (word : Bytes) : Except Stop Reader :=
  match reader.pending with
  | some ⟨switch, none⟩ => .ok { reader with pending := some ⟨switch, some word⟩ }
  | _ => .error (.refused (.unknownWord (Text.decode word)))

/-- Reads a word. A single dash is a plain word; after `--` every word is one too many. -/
def readWord (reader : Reader) (word : Bytes) : Except Stop Reader :=
  let dash := '-'.toUInt8
  if reader.ended then .error (.refused (.unknownWord (Text.decode word)))
  else
    match word with
    | [] => reader.readPlain word
    | first :: rest =>
      if first ≠ dash ∨ rest.isEmpty then reader.readPlain word
      else if rest.head? ≠ some dash then reader.readLetters rest
      else if rest.tail.isEmpty then .ok { reader with ended := true }
      else reader.readLong rest.tail

end Reader

/-- Reads a command line, without the name of the program. -/
def read (words : List Bytes) : Except Stop Options := do
  let reader ← words.foldlM Reader.readWord Reader.start
  let reader ← reader.settle.mapError .refused
  .ok reader.options

end ShellSmoke.CommandLine
