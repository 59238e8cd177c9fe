/-
This file words the help, the version and the refusals of a command line. A message is made of
pieces, so that it can be colored or not.
-/

import ShellSmoke.CommandLine.Refusal
import ShellSmoke.Style
import ShellSmoke.Text.Lossy

namespace ShellSmoke.CommandLine

/-- The name under which the program reports its version. -/
def programName : String := "micro-checker"

/-- The version of the program. -/
def programVersion : String := "0.2.0"

/-! ### The name in usage lines -/

/-- The last part of a path that is a name: empty parts and parts `.` are passed over, and a path
that ends in `..` has none. -/
def lastName? (path : Bytes) : Option Bytes :=
  let parts := (Bytes.splitOn '/'.toUInt8 path).filter fun part =>
    part ≠ [] ∧ part ≠ Bytes.ofString "."
  parts.getLast?.filter (· ≠ Bytes.ofString "..")

/-- The name that usage lines give the program, from the path it was called by. -/
def calledName (path : Bytes) : String :=
  ((lastName? path).bind Text.decodeStrict?).getD programName

/-! ### Parts of messages -/

/-- An option with the placeholder of its value. -/
def switchPieces (switch : Switch) : List Piece :=
  match switch.placeholder? with
  | none => [.styled .literal switch.spelling]
  | some placeholder =>
    [.styled .literal switch.spelling, .styled .placeholder " ", .styled .placeholder placeholder]

/-- An option with the placeholder of its value, as one text. -/
def switchText (switch : Switch) : String :=
  match switch.placeholder? with
  | none => switch.spelling
  | some placeholder => switch.spelling ++ " " ++ placeholder

/-- A usage line. -/
def usagePieces (name : String) (arguments : List Piece) : List Piece :=
  [.styled .usage "Usage:", .plain " ", .styled .literal name, .plain " "] ++ arguments

/-- The usage of a program of which nothing is known yet. -/
def anyOptions : List Piece := [.styled .placeholder "[OPTIONS]"]

/-- The usage that names options. -/
def namedOptions (switches : List Switch) : List Piece :=
  if switches.isEmpty then anyOptions
  else List.intercalate [.plain " "] (switches.map switchPieces)

/-- All options that do more than inform, as alternatives. -/
def alternatives : Piece :=
  .styled .placeholder ("<" ++ String.intercalate "|"
    ([.executable, .results, .withoutChecks, .max, .dryRun].map switchText) ++ ">")

/-- The opening of a refusal. -/
def errorPieces : List Piece := [.styled .error "error:", .plain " "]

/-- The last line of a refusal. -/
def helpHint : List Piece :=
  [.plain "For more information, try '", .styled .literal "--help", .plain "'.\n"]

/-- Something similar that exists. -/
def tipPieces (what : String) (text : String) : List Piece :=
  [.plain "  ", .styled .valid "tip:", .plain (" a similar " ++ what ++ " exists: '"),
    .styled .valid text, .plain "'\n\n"]

/-- The values that a ceiling can have. -/
def possibleScores : List Piece :=
  [.plain "\n  [possible values: "] ++
    List.intercalate [.plain ", "] (MaxScore.all.map fun score => [.styled .valid score.text]) ++
    [.plain "]"]

/-- The values that an option can have, if they are few. -/
def possibleValues : Switch → List Piece
  | .max => possibleScores
  | _ => []

/-! ### Refusals -/

/-- The words of a refusal up to its last line. -/
def refusalPieces (name : String) : Refusal → List Piece
  | .unknownWord word =>
    [.plain "unexpected argument '", .styled .invalid word, .plain "' found\n\n"] ++
      usagePieces name anyOptions ++ [.plain "\n\n"]
  | .unknownOption word similar started =>
    [.plain "unexpected argument '", .styled .invalid word, .plain "' found\n\n"] ++
      (match similar with
        | some switch => tipPieces "argument" switch.spelling
        | none => []) ++
      usagePieces name (namedOptions (started ++ similar.toList.filter (· ∉ started))) ++
      [.plain "\n\n"]
  | .unexpectedValue switch value first =>
    [.plain "unexpected value '", .styled .invalid value, .plain "' for '",
        .styled .literal switch.spelling, .plain "' found; no more were expected\n\n"] ++
      usagePieces name
        (if first then switchPieces switch
        else
          (if switch = .help ∨ switch = .version then switchPieces switch ++ [.plain " "]
            else []) ++ [alternatives]) ++
      [.plain "\n\n"]
  | .missingValue switch =>
    [.plain "a value is required for '", .styled .invalid (switchText switch),
        .plain "' but none was supplied"] ++
      possibleValues switch ++ [.plain "\n\n"]
  | .invalidScore value similar =>
    [.plain "invalid value '", .styled .invalid value, .plain "' for '",
        .styled .literal (switchText .max), .plain "'"] ++
      possibleScores ++ [.plain "\n\n"] ++
      (match similar with
        | some score => tipPieces "value" score.text
        | none => [])
  | .repeated switch =>
    [.plain "the argument '", .styled .invalid (switchText switch),
        .plain "' cannot be used multiple times\n\n"] ++
      usagePieces name anyOptions ++ [.plain "\n\n"]

/-! ### Help and version -/

/-- What an option does. -/
def purpose : Switch → String
  | .executable => "Executable shell file [default: ./a.out]"
  | .results => "Result file"
  | .withoutChecks => "Run without checks"
  | .max => "Max points number [default: 15] [possible values: 15, 20, 25]"
  | .dryRun => "Print the script that would be sent and exit"
  | .help => "Print help"
  | .version => "Print version"

/-- The spellings of an option in the help: its letter, and its long name in a column of its own. -/
def spellingPieces (switch : Switch) : List Piece :=
  match switch.letter?, switch.name? with
  | some letter, some name =>
    [.styled .literal ("-" ++ toString letter), .plain ", ", .styled .literal ("--" ++ name)]
  | some _, none => switchPieces switch
  | none, _ => .plain "    " :: switchPieces switch

/-- The column in which the purposes begin. -/
def purposeColumn : Nat := 19

/-- The line of an option in the help. -/
def helpLine (switch : Switch) : List Piece :=
  let spelling := .plain "  " :: spellingPieces switch
  let width := spelling.foldl (fun width piece => width + piece.text.length) 0
  spelling ++ [.plain ("".pushn ' ' (purposeColumn - width) ++ purpose switch ++ "\n")]

/-- The help. -/
def helpPieces (name : String) : List Piece :=
  [.plain "Tests for shell\n\n"] ++ usagePieces name anyOptions ++
    [.plain "\n\n", .styled .header "Options:", .plain "\n"] ++
    Switch.all.flatMap helpLine

/-- The message with which reading a command line stops. -/
def Stop.message (name : String) : Stop → Message
  | help => ⟨helpPieces name⟩
  | version => ⟨[.plain (programName ++ " " ++ programVersion ++ "\n")]⟩
  | refused refusal => ⟨errorPieces ++ refusalPieces name refusal ++ helpHint⟩

end ShellSmoke.CommandLine
