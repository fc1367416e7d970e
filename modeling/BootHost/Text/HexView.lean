import BootHost.Text.Hex
import BootHost.Text.Glyph

/-!
# Hex views

A hex view shows a run of bytes in rows of sixteen cells. Rows start at multiples of sixteen, so
the first row of a view that starts elsewhere opens with blank cells, and the last row is filled
up with them. A row is its address, its cells as two digits each, and its cells as pictures.
-/

namespace BootHost.Text.HexView

/-- Cells of a row. -/
def rowWidth : Nat := 16

/-- One row: the address of its first cell, and its cells, of which some may be blank. -/
structure Row where
  address : Nat
  cells : List (Option UInt8)

/-- The two columns of a cell in the middle part of a row. -/
def cellDigits : Option UInt8 → List Char
  | none => [' ', ' ']
  | some b => Hex.upperPair b

/-- The column of a cell in the right part of a row. -/
def cellGlyph : Option UInt8 → Char
  | none => ' '
  | some b => glyph b

/-- The text of a row. -/
def Row.text (row : Row) : String :=
  String.ofList (Hex.upper 8 row.address ++ [' ', ' '] ++
    [' '].intercalate (row.cells.map cellDigits) ++ [' ', ' ', '|', ' '] ++
    row.cells.map cellGlyph ++ [' ', '|'])

/-- The cells of one row with blank ones added at the end. -/
def fill (cells : List (Option UInt8)) : List (Option UInt8) :=
  cells ++ List.replicate (rowWidth - cells.length) none

/-- Cuts cells into rows that start at `address`; `done` holds the earlier rows, last first. -/
def cut (address : Nat) (cells : List (Option UInt8)) (done : List Row) : List Row :=
  match cells with
  | [] => done.reverse
  | c :: rest =>
    cut (address + rowWidth) ((c :: rest).drop rowWidth)
      (⟨address, fill ((c :: rest).take rowWidth)⟩ :: done)
termination_by cells.length
decreasing_by
  simp only [List.length_drop, List.length_cons, rowWidth]
  omega

/-- The rows of a view of `bytes` that starts at `offset`. -/
def rows (offset : Nat) (bytes : Bytes) : List Row :=
  let pad := offset % rowWidth
  match List.replicate pad none ++ bytes.map some with
  | [] => [⟨offset, []⟩]
  | cells => cut (offset - pad) cells []

/-- The text of a view of `bytes` that starts at `offset`. -/
def render (offset : Nat) (bytes : Bytes) : String :=
  "\n".intercalate ((rows offset bytes).map Row.text)

/-- Where the rows of a view of memory start: at the address of the bytes, or at zero when the
addresses, with one row to spare, would leave the 64-bit words. -/
def base (address : UInt64) (size : Nat) : Nat :=
  if address.toNat + size + rowWidth < UInt64.size then address.toNat else 0

/-- The view of bytes that lie in memory at `address`. -/
def ofMemory (address : UInt64) (bytes : Bytes) : String :=
  render (base address bytes.length) bytes

end BootHost.Text.HexView
