/-
This file evaluates the arithmetic of the shell: expressions over integers of 64 bits, in which
names stand for variables. A text is read as signs, the signs as a tree, and the tree is evaluated
from left to right. What is wrong with a text has its place in the tree, so that it comes to light
only after all that stands before it was evaluated.
-/

import ShellSmoke.Shell.Octets

namespace ShellSmoke.Shell.Arithmetic

/-! ### Numbers -/

/-- How many numbers 64 bits can hold. -/
def wordBound : Nat := 18446744073709551616

/-- The largest number of 64 bits with a sign. -/
def largest : Nat := 9223372036854775807

/-- Brings a number into 64 bits. -/
def wrap (value : Int) : Int := Int.bmod value wordBound

/-- Whether a character is a digit of a base. -/
def isDigitOf (base : Nat) (char : Char) : Bool :=
  let value := if char.isDigit then char.toNat - 48
    else if 'a' ≤ char ∧ char ≤ 'f' then char.toNat - 87
    else if 'A' ≤ char ∧ char ≤ 'F' then char.toNat - 55
    else base
  value < base

/-- The number that digits denote. -/
def ofDigits (base : Nat) (digits : Octets) : Nat :=
  digits.foldl (fun number char =>
    number * base + (if char.isDigit then char.toNat - 48 else char.toLower.toNat - 87)) 0

/-- The number in front of a text, and what follows it: a zero in front makes it octal, `0x`
hexadecimal. Nothing if no digit is in front. -/
def leadingNumber? (text : Octets) : Option (Nat × Octets) :=
  let (base, digits) := match text with
    | '0' :: mark :: digit :: rest =>
      if (mark = 'x' ∨ mark = 'X') ∧ isDigitOf 16 digit then (16, digit :: rest) else (8, text)
    | '0' :: _ => (8, text)
    | _ => (10, text)
  let taken := digits.takeWhile (isDigitOf base)
  if taken.isEmpty then none else some (ofDigits base taken, digits.drop taken.length)

/-- The number that a text denotes, which may have blanks around it and a sign. A text of blanks
denotes 0. Nothing for any other text, and for a number past 64 bits. -/
def ofText? (text : Octets) : Option Int :=
  let text := text.dropWhile Octets.isBlank
  let (negative, digits) := match text with
    | '-' :: rest => (true, rest)
    | '+' :: rest => (false, rest)
    | _ => (false, text)
  match leadingNumber? digits with
  | none => if text.isEmpty then some 0 else none
  | some (value, rest) =>
    if ¬ rest.all Octets.isBlank then none
    else if negative then (if value ≤ largest + 1 then some (-(value : Int)) else none)
    else if value ≤ largest then some value else none

/-! ### Signs -/

/-- A sign of an expression. -/
inductive Sign where
  | number (value : Int)
  | name (name : Octets)
  | operator (text : String)
  /-- A character that no sign begins with, and all that follows it. -/
  | stray
deriving DecidableEq, Repr, Inhabited

/-- The operators, longer ones before those that they begin with. -/
def operators : List String :=
  ["<<=", ">>=", "<<", ">>", "<=", ">=", "==", "!=", "&&", "||", "+=", "-=", "*=", "/=", "%=",
    "&=", "|=", "^=", "+", "-", "*", "/", "%", "<", ">", "=", "&", "|", "^", "!", "~", "(", ")",
    "?", ":"]

/-- The signs of a text, after those that were found; the count bounds their number. -/
def signsFrom (found : List Sign) : (count : Nat) → Octets → List Sign
  | 0, _ => found.reverse
  | _ + 1, [] => found.reverse
  | count + 1, char :: rest =>
    if [' ', '\t', '\n'].contains char then signsFrom found count rest
    else
      match leadingNumber? (char :: rest) with
      | some (value, rest) => signsFrom (.number (min value largest) :: found) count rest
      | none =>
        if Octets.beginsName char then
          let name := (char :: rest).takeWhile Octets.inName
          signsFrom (.name name :: found) count ((char :: rest).drop name.length)
        else
          match operators.find? fun operator => operator.toList.isPrefixOf (char :: rest) with
          | some operator =>
            signsFrom (.operator operator :: found) count ((char :: rest).drop operator.length)
          | none => (.stray :: found).reverse

/-- The signs of a text. -/
def signs (text : Octets) : List Sign := signsFrom [] (text.length + 1) text

/-! ### Trees -/

/-- Why an expression has no value. -/
inductive Fault where
  /-- An operand is missing. -/
  | noOperand
  /-- A parenthesis is not closed. -/
  | unclosed
  /-- A choice has no second part. -/
  | unpaired
  /-- More signs follow the end. -/
  | overlong
  | divisionByZero
  /-- A quotient does not fit into a number of 64 bits: the machine has none. -/
  | quotientTooLarge
  /-- The value of a variable is no number. -/
  | illegalNumber (text : Octets)
deriving DecidableEq, Repr, Inhabited

/-- What the shell says of a fault in an expression. -/
def Fault.message (expression : Octets) : Fault → Octets
  | noOperand => within "expecting primary"
  | unclosed => within "expecting ')'"
  | unpaired => within "expecting ':'"
  | overlong => within "expecting EOF"
  | divisionByZero => within "division by zero"
  | quotientTooLarge => within "division overflow"
  | illegalNumber text => "Illegal number: ".toList ++ text
where
  within (what : String) : Octets :=
    ("arithmetic expression: " ++ what ++ ": ").toList ++ '\x22' :: expression ++ ['\x22']

/-- An expression. -/
inductive Expression where
  | number (value : Int)
  | parameter (name : Octets)
  /-- The value of an operator before an operand. -/
  | signed (operator : String) (operand : Expression)
  /-- The value of an operator between operands. -/
  | joined (operator : String) (left right : Expression)
  /-- Whether both have values other than 0; the second is skipped if the first has not. -/
  | both (left right : Expression)
  /-- Whether one has a value other than 0; the second is skipped if the first has. -/
  | either (left right : Expression)
  /-- One of two values; the other is skipped. -/
  | choice (condition whenTrue otherwise : Expression)
  /-- Gives a variable a value, or joins the value to that of the variable with an operator. -/
  | assignment (name : Octets) (operator : Option String) (value : Expression)
  /-- The value of an expression that something is wrong behind. -/
  | spoiled (expression : Expression) (fault : Fault)
deriving Repr, Inhabited

namespace Expression

/-- An expression of which nothing is right. -/
def nothing (fault : Fault) : Expression := .spoiled (.number 0) fault

end Expression

/-- A reader of an expression in front of signs; the value also holds the signs that follow. After a
fault none follow. -/
abbrev Reading := List Sign → Expression × List Sign

/-- An operand: a number, a name, an operator before an operand, or an expression in parentheses.
The count bounds how many operators stand in a row. -/
def readOperand (inner : Reading) : (count : Nat) → Reading
  | 0, _ => (.nothing .noOperand, [])
  | count + 1, signs =>
    match signs with
    | .number value :: rest => (.number value, rest)
    | .name name :: rest => (.parameter name, rest)
    | .operator "(" :: rest =>
      match inner rest with
      | (expression, .operator ")" :: rest) => (expression, rest)
      | (expression, _) => (.spoiled expression .unclosed, [])
    | .operator operator :: rest =>
      if ["+", "-", "!", "~"].contains operator then
        let (operand, rest) := readOperand inner count rest
        (.signed operator operand, rest)
      else (.nothing .noOperand, [])
    | _ => (.nothing .noOperand, [])

/-- The operators between two operands by how tightly they bind, the loosest first. -/
def levels : List (List String) :=
  [["|"], ["^"], ["&"], ["==", "!="], ["<=", ">=", "<", ">"], ["<<", ">>"], ["+", "-"],
    ["*", "/", "%"]]

/-- What operators of one level join to an expression, from the left. -/
def readChain (operand : Reading) (operators : List String) (left : Expression) :
    (count : Nat) → Reading
  | 0, signs => (left, signs)
  | count + 1, signs =>
    match signs with
    | .operator operator :: rest =>
      if operators.contains operator then
        let (right, rest) := operand rest
        readChain operand operators (.joined operator left right) count rest
      else (left, signs)
    | _ => (left, signs)

/-- Operands joined by the operators of some levels. -/
def readJoined (operand : Reading) : List (List String) → Reading
  | [], signs => operand signs
  | operators :: tighter, signs =>
    let (left, rest) := readJoined operand tighter signs
    readChain (readJoined operand tighter) operators left rest.length rest

/-- Parts joined by an operator, from the right; the count bounds their number. -/
def readConnected (part : Reading) (operator : String)
    (connect : Expression → Expression → Expression) : (count : Nat) → Reading
  | 0, signs => part signs
  | count + 1, signs =>
    let (left, rest) := part signs
    match rest with
    | .operator found :: more =>
      if found = operator then
        let (right, rest) := readConnected part operator connect count more
        (connect left right, rest)
      else (left, rest)
    | _ => (left, rest)

/-- The operator of an assignment that changes a variable; nothing for a plain one. -/
def assignment? (operator : String) : Option (Option String) :=
  if operator = "=" then some none
  else if ["<<=", ">>=", "+=", "-=", "*=", "/=", "%=", "&=", "|=", "^="].contains operator then
    some (some (String.ofList operator.toList.dropLast))
  else none

/-- A condition, which may choose between an expression and another condition. -/
def readCondition (inner : Reading) : (count : Nat) → Reading
  | 0, _ => (.nothing .noOperand, [])
  | count + 1, signs =>
    let operand := readOperand inner (count + 1)
    let conjunction := readConnected (readJoined operand levels) "&&" .both count
    let (condition, rest) := readConnected conjunction "||" .either count signs
    match rest with
    | .operator "?" :: rest =>
      match inner rest with
      | (whenTrue, .operator ":" :: rest) =>
        let (otherwise, rest) := readCondition inner count rest
        (.choice condition whenTrue otherwise, rest)
      | (whenTrue, _) => (.choice condition (.spoiled whenTrue .unpaired) (.number 0), [])
    | _ => (condition, rest)

/-- An expression: an assignment or a condition. The count bounds how deeply it is nested. -/
def readExpression : (count : Nat) → Reading
  | 0, _ => (.nothing .noOperand, [])
  | count + 1, signs =>
    match signs with
    | .name name :: .operator operator :: rest =>
      match assignment? operator with
      | some change =>
        let (value, rest) := readExpression count rest
        (.assignment name change value, rest)
      | none => readCondition (readExpression count) (count + 1) signs
    | _ => readCondition (readExpression count) (count + 1) signs

/-- The expression that a text holds. -/
def read (text : Octets) : Expression :=
  let signs := signs text
  match readExpression (signs.length + 1) signs with
  | (expression, []) => expression
  | (expression, _) => .spoiled expression .overlong

/-! ### Values -/

/-- The texts of variables, the latest first. -/
abbrev Bindings := List (Octets × Octets)

/-- A part of an evaluation. -/
abbrev Evaluation := StateT Bindings (Except Fault)

/-- The number that a condition stands for. -/
def ofBool (condition : Bool) : Int := if condition then 1 else 0

/-- Combines the bits of two numbers. -/
def bitwise (combine : BitVec 64 → BitVec 64 → BitVec 64) (left right : Int) : Int :=
  (combine (BitVec.ofInt 64 left) (BitVec.ofInt 64 right)).toInt

/-- Whether a number can be divided by another on the machine, which finds the quotient also where
only the remainder is asked for. -/
def divisible (left right : Int) : Except Fault Unit :=
  if right = 0 then .error .divisionByZero
  else if largest < left.tdiv right then .error .quotientTooLarge
  else .ok ()

/-- The value of an operator between two numbers. -/
def combine (operator : String) (left right : Int) : Except Fault Int :=
  match operator with
  | "|" => .ok (bitwise (· ||| ·) left right)
  | "^" => .ok (bitwise (· ^^^ ·) left right)
  | "&" => .ok (bitwise (· &&& ·) left right)
  | "==" => .ok (ofBool (left = right))
  | "!=" => .ok (ofBool (left ≠ right))
  | "<=" => .ok (ofBool (left ≤ right))
  | ">=" => .ok (ofBool (left ≥ right))
  | "<" => .ok (ofBool (left < right))
  | ">" => .ok (ofBool (left > right))
  | "<<" => .ok (wrap (left * Nat.pow 2 (right % 64).toNat))
  | ">>" => .ok (left >>> (right % 64).toNat)
  | "+" => .ok (wrap (left + right))
  | "-" => .ok (wrap (left - right))
  | "*" => .ok (wrap (left * right))
  | "/" => (divisible left right).map fun _ => left.tdiv right
  | "%" => (divisible left right).map fun _ => left.tmod right
  | _ => .error .noOperand

/-- The value of an operator before a number. -/
def prepend (operator : String) (value : Int) : Int :=
  match operator with
  | "-" => wrap (-value)
  | "!" => ofBool (value = 0)
  | "~" => -value - 1
  | _ => value

/-- The value of a variable; one that is not set is 0. -/
def valueOf (name : Octets) : Evaluation Int := do
  let text := ((← get).lookup name).getD []
  match ofText? text with
  | some value => return value
  | none => throw (.illegalNumber text)

/-- Evaluates an expression. In a part that is skipped nothing is computed or assigned, and only
what is wrong with the signs is found. -/
def evaluate (live : Bool) : Expression → Evaluation Int
  | .number value => return value
  | .parameter name => if live then valueOf name else return 0
  | .signed operator operand => return prepend operator (← evaluate live operand)
  | .joined operator left right => do
    let left ← evaluate live left
    let right ← evaluate live right
    if live then combine operator left right else return right
  | .both left right => do
    let left ← evaluate live left
    let right ← evaluate (live && left ≠ 0) right
    return ofBool (left ≠ 0 ∧ right ≠ 0)
  | .either left right => do
    let left ← evaluate live left
    let right ← evaluate (live && left = 0) right
    return ofBool (left ≠ 0 ∨ right ≠ 0)
  | .choice condition whenTrue otherwise => do
    let condition ← evaluate live condition
    let whenTrue ← evaluate (live && condition ≠ 0) whenTrue
    let otherwise ← evaluate (live && condition = 0) otherwise
    return if condition ≠ 0 then whenTrue else otherwise
  | .assignment name operator value => do
    let value ← evaluate live value
    if ¬ live then return value
    let value ← match operator with
      | none => pure value
      | some operator => combine operator (← valueOf name) value
    modify fun bindings => (name, .ofInt value) :: bindings
    return value
  | .spoiled expression fault => do
    let _ ← evaluate live expression
    throw fault

/-- The value of the expression that a text holds, and the variables that it changes with their
values, latest first. -/
def compute (text : Octets) (bindings : Bindings) : Except Fault (Int × Bindings) :=
  match evaluate true (read text) bindings with
  | .error fault => .error fault
  | .ok (value, after) => .ok (value, after.take (after.length - bindings.length))

end ShellSmoke.Shell.Arithmetic
