/-
This file holds the colors of messages. A message is a list of pieces, each with the part it plays;
a theme gives every part the escape sequence that starts it. Where sequences are not wanted, they
are taken out of the finished text, so that those in the words of the user go with them.
-/

import ShellSmoke.Terminal

namespace ShellSmoke

/-- What a piece of a message is. -/
inductive Role where
  | header
  | usage
  | literal
  | placeholder
  | error
  | valid
  | invalid
deriving DecidableEq, Repr, Inhabited

/-- The escape sequences that start the parts of a message; an empty one leaves a part as it is. -/
structure Theme where
  start : Role → String

namespace Theme

/-- No colors. -/
def plain : Theme := ⟨fun _ => ""⟩

/-- The sequence that selects a color of the palette of 256. -/
def foreground (code : Nat) : String := "\x1b[38;5;" ++ toString code ++ "m"

/-- Headings in steel blue, words to be typed in light grey, placeholders in medium grey; errors
bold red, good suggestions green, bad words yellow. -/
def colored : Theme where
  start
    | .header => foreground 74
    | .usage => foreground 74
    | .literal => foreground 250
    | .placeholder => foreground 245
    | .error => "\x1b[1m\x1b[31m"
    | .valid => "\x1b[32m"
    | .invalid => "\x1b[33m"

/-- The theme of a program. -/
def choose (colorize : Bool) : Theme := if colorize then colored else plain

end Theme

/-- A piece of a message. -/
inductive Piece where
  | plain (text : String)
  | styled (role : Role) (text : String)
deriving DecidableEq, Repr, Inhabited

/-- The text of a piece without its color. -/
def Piece.text : Piece → String
  | plain text => text
  | styled _ text => text

/-- The text of a piece under a theme; every colored piece resets the terminal after it. -/
def Piece.render (theme : Theme) : Piece → String
  | plain text => text
  | styled role text =>
    if theme.start role = "" then text else theme.start role ++ text ++ "\x1b[0m"

/-- A text with the parts that its pieces play. -/
structure Message where
  pieces : List Piece
deriving DecidableEq, Repr, Inhabited

/-- The text of a message under a theme. -/
def Message.render (theme : Theme) (message : Message) : String :=
  String.join (message.pieces.map (Piece.render theme))

/-- The bytes of a message on a stream that keeps terminal sequences or takes them out. -/
def Message.onStream (theme : Theme) (keepsSequences : Bool) (message : Message) : Bytes :=
  let bytes := Bytes.ofString (message.render theme)
  if keepsSequences then bytes else Terminal.stripStream bytes

end ShellSmoke
