/-
This file says in which units tools write sizes: a number of bytes, or powers of a thousand or of
1024 that fit the size, with letters for them.
-/

import ShellSmoke.Tools.Amount

namespace ShellSmoke.Tools

/-- A unit in which sizes are written. Sizes are rounded up. -/
structure SizeUnit where
  /-- How many bytes it has. -/
  size : Nat
  /-- Whether a size is written in the power of the base that fits it. -/
  fitting : Bool
  /-- Whether the letter for the unit follows the number. -/
  lettered : Bool
  base : Nat
  /-- Whether a letter for bytes follows that. -/
  marked : Bool
deriving DecidableEq, Repr, Inhabited

namespace SizeUnit

/-- The unit of so many bytes. -/
def ofBytes (size : Nat) : SizeUnit := ⟨size, false, false, 1024, false⟩

/-- The powers of a base that fit. -/
def powers (base : Nat) : SizeUnit := ⟨1, true, true, base, false⟩

/-! ### Writing -/

/-- The letters for the powers of a base. -/
def letters (base : Nat) : List Char :=
  (if base = 1000 then 'k' else 'K') :: ['M', 'G', 'T', 'P', 'E', 'Z', 'Y', 'R', 'Q']

/-- A size with a letter for a power of a base. Below ten there is one decimal place. -/
def fittingText (base size : Nat) : String :=
  if size < base then toString size else go base (letters base)
where
  go (unit : Nat) : List Char → String
    | [] => toString size
    | letter :: more =>
      let tenths := (size * 10 + unit - 1) / unit
      let whole := (size + unit - 1) / unit
      if tenths < 100 then
        toString (tenths / 10) ++ "." ++ toString (tenths % 10) ++ letter.toString
      else if whole < base ∨ more.isEmpty then toString whole ++ letter.toString
      else go (unit * base) more

/-- The letters after the number of a size. -/
def ending (unit : SizeUnit) : List Char :=
  let isReached (count : Nat) : Bool := decide (unit.size ≤ Nat.pow unit.base count)
  let exponent := ((List.range 11).find? isReached).getD 10
  let power := if exponent = 0 then [] else (letters unit.base)[exponent - 1]?.toList
  let binary := if unit.base = 1024 ∧ 0 < exponent then ['i'] else []
  power ++ if unit.marked then binary ++ ['B'] else []

/-- A number of bytes in a unit. -/
def text (unit : SizeUnit) (bytes : Nat) : String :=
  if unit.fitting then fittingText unit.base bytes
  else
    toString ((bytes + unit.size - 1) / unit.size) ++
      if unit.lettered then String.ofList unit.ending else ""

/-! ### Reading -/

/-- Why a word is no unit. -/
inductive Fault where
  | invalid
  /-- What follows the digits makes no sense; the digits stand for a number. -/
  | ending (number : Nat)
  | tooLarge
deriving DecidableEq, Repr, Inhabited

/-- What a tool says about a word for an option that is no unit. -/
def Fault.message (option : String) (word : Bytes) : Fault → Bytes
  | invalid => Bytes.ofString ("invalid " ++ option ++ " argument ") ++ escaped word
  | ending _ => Bytes.ofString ("invalid suffix in " ++ option ++ " argument ") ++ escaped word
  | tooLarge =>
    Bytes.ofString (option ++ " argument ") ++ escaped word ++ Bytes.ofString " too large"

/-- The letters for powers that can follow the digits. -/
def power? (letter : Char) : Option Nat :=
  [('k', 1), ('K', 1), ('m', 2), ('M', 2), ('g', 3), ('G', 3), ('t', 4), ('T', 4), ('P', 5),
    ('E', 6), ('Z', 7), ('Y', 8)].lookup letter

/-- Whether a letter can stand alone, or seems to. -/
def standsAlone (letter : Char) : Bool :=
  (power? letter).isSome || ['e', 'p', 'y', 'z', '0'].contains letter

/-- The number of bytes for which digits with letters after them stand. -/
def bytes (number : Nat) : List Char → Except Fault Nat
  | [] => if Amount.most < number then .error .tooLarge else .ok number
  | letter :: rest =>
    match power? letter with
    | none => .error (.ending number)
    | some power =>
      let decimal := rest = ['B'] ∨ rest = ['D']
      if ¬ (rest = [] ∨ rest = ['i', 'B'] ∨ decimal) then .error (.ending number)
      else
        let size := number * Nat.pow (if decimal then 1000 else 1024) power
        if Amount.most < size then .error .tooLarge else .ok size

/-- The unit for which digits and letters stand, or letters alone. -/
def ofNumber (word : List Char) : Except Fault SizeUnit := do
  let (count, number, rest) := Amount.leadingNumber word
  let alone := count = 0
  unless ¬ alone ∨ word.head?.any standsAlone do throw .invalid
  let size ← bytes (if alone then 1 else number) rest
  if size = 0 then throw .invalid
  let marked := alone ∧ rest.getLast? = some 'B'
  let binary := ¬ marked ∨ rest.dropLast.getLast? = some 'i'
  return ⟨size, false, alone, if binary then 1024 else 1000, marked⟩

/-- The unit for which a word stands. A quote in front asks for nothing. -/
def read (word : Bytes) : Except Fault SizeUnit :=
  let text := Amount.chars word
  let text := if text.head? = some '\x27' then text.tail else text
  let begins (name : String) : Bool := ! text.isEmpty && text.isPrefixOf name.toList
  if begins "human-readable" then .ok (powers 1024)
  else if begins "si" then .ok (powers 1000)
  else ofNumber text

/-- The unit for which a word stands that nobody complains about. -/
def ofWord (usual : SizeUnit) (word : Bytes) : SizeUnit :=
  match read word with
  | .ok unit => unit
  | .error .invalid => usual
  | .error (.ending number) => if number = 0 then usual else ofBytes number
  | .error .tooLarge => ofBytes Amount.most

end SizeUnit

end ShellSmoke.Tools
