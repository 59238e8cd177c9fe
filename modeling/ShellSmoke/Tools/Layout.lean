/-
This file lays out pieces of text of known widths: in columns, in rows, or one after another with
separators.
-/

import ShellSmoke.Tools.Inked

namespace ShellSmoke.Tools

/-- A piece of text, which can depend on the column where it begins, and how wide it is. -/
structure Piece where
  text : (column : Nat) → Inked
  width : Nat
deriving Inhabited

/-- The room that there is for pieces. Nothing stands for a line without an end. -/
structure Room where
  width : Option Nat
  /-- How far tabs are apart; there are none if that is zero. -/
  tab : Nat
deriving DecidableEq, Repr, Inhabited

namespace Room

/-- The least width of a column. -/
def leastWidth : Nat := 3

/-- Blanks from one place of a line to another. The count bounds how many there are. -/
def blanks (room : Room) (goal : Nat) : (count : Nat) → (place : Nat) → Bytes
  | 0, _ => []
  | count + 1, place =>
    if goal ≤ place then []
    else if room.tab ≠ 0 ∧ (place + 1) / room.tab < goal / room.tab then
      9 :: room.blanks goal count (place + (room.tab - place % room.tab))
    else 32 :: room.blanks goal count (place + 1)

/-- The widths of columns that hold pieces, down the columns or along the rows. A column that is not
the last has a gap of two after it. -/
def columnWidths (pieces : List Piece) (columns : Nat) (down : Bool) : List Nat :=
  let rows := (pieces.length + columns - 1) / columns
  let indexed := pieces.zipIdx
  (List.range columns).map fun column =>
    let own := indexed.filter fun (_, place) =>
      (if down then place / rows else place % columns) = column
    let gap := if column + 1 = columns then 0 else 2
    own.foldl (fun width (piece, _) => max width (piece.width + gap)) leastWidth

/-- How many columns fit: the most that are as narrow as can be, or whose widths together are below
that of the line, and at least one. -/
def columnCount (pieces : List Piece) (width : Nat) (down : Bool) : Nat :=
  let most := min pieces.length (width / leastWidth + if width % leastWidth = 0 then 0 else 1)
  let fits (columns : Nat) : Bool :=
    let widths := columnWidths pieces columns down
    widths.all (· = leastWidth) || decide (widths.foldl (· + ·) 0 < width)
  (((List.range (most + 1)).reverse.filter (1 < ·)).find? fits).getD 1

/-- Lines of rows of pieces, in columns of some widths. -/
def lineUp (room : Room) (widths : List Nat) (ending : UInt8) (row : List Piece) : Inked :=
  let (text, _) := (row.zip widths).zipIdx.foldl
    (fun (text, place) ((piece, width), index) =>
      let filling := if index + 1 = row.length then []
        else room.blanks (place + width) (width + 1) (place + piece.width)
      (text ++ piece.text place ++ Inked.ofBytes filling, place + width))
    ((([] : Inked), 0))
  text ++ Inked.ofBytes [ending]

/-- Pieces one after another, each but the last with a separator and a blank after it, and lines
broken where the next does not fit. -/
def separated (room : Room) (separator ending : UInt8) (pieces : List Piece) : Inked :=
  let (text, _) := pieces.zipIdx.foldl
    (fun (text, place) (piece, index) =>
      if index = 0 then (piece.text 0, piece.width)
      else
        let stays := match room.width with
          | none => true
          | some width => decide (place + piece.width + 2 < width)
        if stays then
          (text ++ Inked.ofBytes [separator, 32] ++ piece.text (place + 2), place + 2 + piece.width)
        else (text ++ Inked.ofBytes [separator, ending] ++ piece.text 0, piece.width))
    ((([] : Inked), 0))
  text ++ Inked.ofBytes [ending]

/-- Pieces in columns, whose order goes down the columns or along the rows. -/
def inColumns (room : Room) (down : Bool) (ending : UInt8) (pieces : List Piece) : Inked :=
  match room.width with
  | none => room.separated 32 ending pieces
  | some width =>
    let columns := columnCount pieces width down
    let rows := (pieces.length + columns - 1) / columns
    let widths := columnWidths pieces columns down
    let indexed := pieces.zipIdx
    (List.range rows).flatMap fun row =>
      let own := indexed.filter fun (_, place) =>
        (if down then place % rows else place / columns) = row
      room.lineUp widths ending (own.map (·.1))

end Room

end ShellSmoke.Tools
