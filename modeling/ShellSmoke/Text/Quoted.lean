/-
This file quotes byte strings so that they can be read on one line: what is not shown as it is gets
an escape, and so does every byte that is not UTF-8.
-/

import ShellSmoke.Text.Lossy
import ShellSmoke.Text.Printed

namespace ShellSmoke.Text

/-- The escape of a character inside double quotes. -/
def escapeChar (char : Char) : List Char :=
  if char = '"' then ['\\', '"']
  else if char = '\\' then ['\\', '\\']
  else if char = '\n' then ['\\', 'n']
  else if char = '\r' then ['\\', 'r']
  else if char = '\t' then ['\\', 't']
  else if char.toNat = 0 then ['\\', '0']
  else if isPrinted char then [char]
  else ['\\', 'u', '\x7b'] ++ Nat.toDigits 16 char.toNat ++ ['\x7d']

/-- The escape of a byte that belongs to no character. -/
def escapeByte (byte : UInt8) : List Char :=
  ['\\', 'x'] ++ (Nat.toDigits 16 (byte.toNat / 16) ++ Nat.toDigits 16 (byte.toNat % 16)).map
    Char.toUpper

/-- A byte string between double quotes. -/
def quote (bytes : Bytes) : String :=
  String.ofList (['"'] ++ (segments bytes).flatMap (fun
    | .sequence char => escapeChar char
    | .broken bytes => bytes.flatMap escapeByte) ++ ['"'])

end ShellSmoke.Text
