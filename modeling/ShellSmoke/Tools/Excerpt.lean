/-
This file says which part of a file is shown at its end, what happens after that, and which options
ask for it.
-/

import ShellSmoke.Tools.Sleeping

namespace ShellSmoke.Tools

open Machine

/-! ### Parts of a file -/

/-- A part of a file: the last lines or bytes, or all but the first. -/
structure Excerpt where
  count : Nat
  /-- Whether bytes are counted, and not lines. -/
  inBytes : Bool
  /-- Whether the count is that of the first line or byte, counted from the front. -/
  fromFront : Bool
  /-- The byte that ends a line. -/
  ending : UInt8
deriving DecidableEq, Repr, Inhabited

namespace Excerpt

/-- The last of a number of items. -/
def lastOf {α : Type} (excerpt : Excerpt) (items : List α) : List α :=
  items.drop (items.length - excerpt.count)

/-- The last part of a content; a last line need not be ended. -/
def of (excerpt : Excerpt) (content : Bytes) : Bytes :=
  if excerpt.inBytes then excerpt.lastOf content
  else (excerpt.lastOf (content.splitBy fun byte _ => byte ≠ excerpt.ending)).flatten

/-- A text without a number of its first lines, and how many of them it does not have. -/
def skipLines (ending : UInt8) : (count : Nat) → Bytes → Bytes × Nat
  | 0, text => (text, 0)
  | count + 1, [] => ([], count + 1)
  | count + 1, byte :: rest => skipLines ending (if byte = ending then count else count + 1) rest

/-- A text without a number of its first lines or bytes, and how many of them it does not have. -/
def skip (excerpt : Excerpt) (count : Nat) (text : Bytes) : Bytes × Nat :=
  if excerpt.inBytes then (text.drop count, count - text.length)
  else skipLines excerpt.ending count text

/-- How many lines or bytes are passed, if they are counted from the front. -/
def skipped (excerpt : Excerpt) : Nat := excerpt.count - 1

end Excerpt

/-! ### Settings -/

/-- How a file is followed. -/
inductive FollowMode where
  /-- The file that was opened, whatever it is called later. -/
  | descriptor
  /-- Whatever file has the name. -/
  | name
deriving DecidableEq, Repr, Inhabited

/-- What is shown, and what happens then. -/
structure TailSetting where
  excerpt : Excerpt
  follow : Option FollowMode
  /-- Whether files that cannot be opened are tried again. -/
  retry : Bool
  /-- Whether each file is named: always or never, or else if there is more than one. -/
  titled : Option Bool
  /-- The process whose end ends the tool. -/
  watched : Option Nat
  /-- How many microseconds pass before files are looked at again. -/
  pause : Nat
  /-- How often nothing has to be new in a file before its name is looked at. -/
  patience : Nat
deriving DecidableEq, Repr, Inhabited

namespace TailSetting

/-- The setting without options. -/
def plain : TailSetting := ⟨⟨10, false, false, 10⟩, none, false, none, none, 1000000, 5⟩

/-- What a count changes; after `+` it is counted from the front. -/
def applyCount (setting : TailSetting) (inBytes : Bool) (word : Bytes) :
    Except Objection TailSetting :=
  let fromFront := word.head? = some '+'.toUInt8
  let shown := if word.head? = some '-'.toUInt8 then word.tail else word
  match Amount.read shown with
  | .ok count =>
    .ok { setting with
      excerpt := { setting.excerpt with
        count, inBytes, fromFront := setting.excerpt.fromFront || fromFront } }
  | .error fault =>
    let unit := if inBytes then "bytes" else "lines"
    .error (.value (fault.message ("invalid number of " ++ unit) shown))

/-- The words for the ways to follow. -/
def followChoices : Choices FollowMode := ⟨[("descriptor", .descriptor), ("name", .name)]⟩

/-- The largest number that a process can have. -/
def mostProcess : Nat := 2147483647

/-- What an option changes. -/
def apply (setting : TailSetting) (key : String) (value : Option Bytes) :
    Except Objection TailSetting :=
  let word := value.getD []
  let plainAmount (about : String) (most : Nat) (next : Nat → TailSetting) :
      Except Objection TailSetting :=
    let fault (fault : AmountFault) : Except Objection TailSetting :=
      .error (.value (fault.message about word))
    match Amount.read word with
    | .ok amount =>
      if ¬ word.all fun byte => (Char.ofNat byte.toNat).isDigit then fault .invalid
      else if most < amount then fault .tooLarge
      else .ok (next amount)
    | .error other => fault other
  match key with
  | "c" => setting.applyCount true word
  | "n" => setting.applyCount false word
  | "F" => .ok { setting with follow := some .name, retry := true }
  | "f" =>
    if value.isNone then .ok { setting with follow := some .descriptor }
    else
      match followChoices.read "--follow" word with
      | .ok mode => .ok { setting with follow := some mode }
      | .error message => .error (.choice message)
  | "retry" => .ok { setting with retry := true }
  | "max-unchanged-stats" =>
    plainAmount "invalid maximum number of unchanged stats between opens" Amount.most
      fun patience => { setting with patience }
  | "pid" => plainAmount "invalid PID" mostProcess fun process =>
      { setting with watched := if process = 0 then none else some process }
  | "q" => .ok { setting with titled := some false }
  | "v" => .ok { setting with titled := some true }
  | "z" => .ok { setting with excerpt := { setting.excerpt with ending := 0 } }
  | "s" =>
    match plainMicroseconds? word with
    | some pause => .ok { setting with pause }
    | none => .error (.value (Bytes.ofString "invalid number of seconds: " ++ escaped word))
  | digit => .error (.value (Bytes.ofString ("option used in invalid context -- " ++ digit)))

/-- The options of the tool. -/
def options : OptionReader TailSetting where
  table := {
    letters := plainLetters "fFqvz0123456789" ++ valuedLetters "cns"
    names := [⟨"bytes", .valued, "c"⟩, ⟨"follow", .open, "f"⟩, ⟨"lines", .valued, "n"⟩,
      ⟨"max-unchanged-stats", .valued, "max-unchanged-stats"⟩, ⟨"pid", .valued, "pid"⟩,
      ⟨"quiet", .alone, "q"⟩, ⟨"retry", .alone, "retry"⟩, ⟨"silent", .alone, "q"⟩,
      ⟨"sleep-interval", .valued, "s"⟩, ⟨"verbose", .alone, "v"⟩,
      ⟨"zero-terminated", .alone, "z"⟩] ++ commonNames }
  initial := .plain
  apply := apply

end TailSetting

/-! ### The old form of the options -/

/-- Whether the arguments leave room for the old form: a word, and at most one file after it. -/
def allowsOldForm : List Bytes → Bool
  | [_] => true
  | [_, word] =>
    let dash := '-'.toUInt8
    word = [dash, dash] || ! (word.head? = some dash && 1 < word.length)
  | [_, word, _] => word = Bytes.ofString "--"
  | _ => false

/-- What a word of the old form asks for: a sign, a count, a letter for the unit, and a letter for
following. The value is nothing if the word is no such word, and tells if its count is too large. -/
def oldForm? (word : Bytes) : Option (Except AmountFault TailSetting) := do
  let text := Amount.chars word
  let sign ← text.head?
  let rest := text.tail
  if sign ≠ '+' ∧ sign ≠ '-' then none
  else if sign = '-' ∧ (rest = [] ∨ rest = ['c']) then none
  else
    let (number, count, rest) := Decimal.leadingDigits 10 rest
    let (scale, inBytes, rest) := match rest with
      | 'b' :: more => (512, true, more)
      | 'c' :: more => (1, true, more)
      | 'l' :: more => (1, false, more)
      | more => (1, false, more)
    let (follows, rest) := match rest with
      | 'f' :: more => (true, more)
      | more => (false, more)
    if ¬ rest.isEmpty then none
    else
      let amount := (if count = 0 then 10 else number) * scale
      some ((Amount.bounded amount).map fun count =>
        { TailSetting.plain with
          excerpt := ⟨count, inBytes, sign = '+', 10⟩
          follow := if follows then some .descriptor else none })

end ShellSmoke.Tools
