/-
This file holds spans of time and their text.
-/

namespace ShellSmoke

/-- A span of time in whole milliseconds. -/
structure Duration where
  milliseconds : Nat
deriving DecidableEq, Repr, Inhabited

namespace Duration

/-- So many seconds. -/
def seconds (count : Nat) : Duration := ⟨count * 1000⟩

/-- A fraction of a second in thousandths, with a point in front and without zeros at the end. -/
def fractionText (thousandths : Nat) : String :=
  if thousandths % 1000 = 0 then ""
  else if thousandths % 100 = 0 then "." ++ toString (thousandths / 100)
  else if thousandths % 10 = 0 then
    "." ++ (if thousandths < 100 then "0" else "") ++ toString (thousandths / 10)
  else
    "." ++ (if thousandths < 10 then "00" else if thousandths < 100 then "0" else "") ++
      toString thousandths

/-- The text of a span: milliseconds below one second, else seconds with what they need of a
fraction. The empty span is written in nanoseconds. -/
def text (duration : Duration) : String :=
  if duration.milliseconds = 0 then "0ns"
  else if duration.milliseconds < 1000 then toString duration.milliseconds ++ "ms"
  else
    toString (duration.milliseconds / 1000) ++ fractionText (duration.milliseconds % 1000) ++ "s"

end Duration

end ShellSmoke
