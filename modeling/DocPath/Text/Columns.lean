import DocPath.Text.Widths

/-! Columns of a line, and tab stops.

A line is measured from left to right, and after each tab anew. A joiner draws the character
behind it into the one before, so that it takes no column. A selector asks for the picture of the
last character that took a column, and asks once. -/
namespace DocPath.Text

/-- The joiner of characters. -/
def isJoiner (c : Char) : Bool := c.toNat == 0x200D

/-- The selector of pictures. -/
def isSelector (c : Char) : Bool := c.toNat == 0xFE0F

/-- How far a line has been measured. -/
structure Cursor where
  column : Nat
  /-- The last character that took a column, unless a selector has followed it. -/
  last : Option Char
  /-- Whether the next character is joined to the one before. -/
  joined : Bool
  deriving DecidableEq

namespace Cursor

/-- A cursor that has nothing before it but the columns themselves. -/
def fresh (column : Nat) : Cursor := ⟨column, none, false⟩

/-- Asks for the picture of the last character. -/
def select (p : Cursor) : Cursor :=
  match p.last with
  | some c => ⟨if isPictured c then p.column + 1 else p.column, none, p.joined⟩
  | none => p

/-- Moves over a character. -/
def advance (c : Char) (p : Cursor) : Cursor :=
  if p.joined then { p with joined := false }
  else if isJoiner c then { p with joined := true }
  else if isSelector c then p.select
  else if columns c = 0 then p
  else ⟨p.column + columns c, some c, false⟩

/-- Moves over a blank and on to the next column divisible by `stop`. -/
def tab (stop : Nat) (p : Cursor) : Cursor :=
  let column := (p.advance ' ').column
  fresh (column + (stop - column % stop) % stop)

end Cursor

/-- Replaces each tab by a blank and those that lead from there to the next stop. -/
def expandTabs (stop : Nat) (p : Cursor) : List Char → List Char
  | [] => []
  | c :: rest =>
    if c = '\n' then c :: expandTabs stop (.fresh 0) rest
    else if c = '\t' then
      let filled := (p.tab stop).column - (p.advance ' ').column
      List.replicate (filled + 1) ' ' ++ expandTabs stop (p.tab stop) rest
    else c :: expandTabs stop (p.advance c) rest

end DocPath.Text
