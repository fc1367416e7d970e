import BootHost.Text.Blank

/-!
# Numerals

A numeral is an optional plus sign followed by one or more digits. `read` turns one into its
value below a limit, and otherwise says what is wrong with it; it looks at the digits from the
left, so a digit that is none is found before an overflow further right and the other way
around. On top of it stand the notations of the host: hexadecimal numbers with an optional
`0x`, and counts, which are decimal unless they carry that mark. Both ignore blanks around
the number and underscores in it.
-/

namespace BootHost.Text.Numeral

/-- Why a text is no numeral below the limit. -/
inductive Defect where
  | empty
  | strayCharacter
  | tooLarge

/-- What is wrong with a numeral, in words. -/
def Defect.message : Defect → String
  | .empty => "cannot parse integer from empty string"
  | .strayCharacter => "invalid digit found in string"
  | .tooLarge => "number too large to fit in target type"

/-- The value of a digit, letters of either case standing for ten and more. -/
def digit? (base : Nat) (c : Char) : Option Nat :=
  let d :=
    if '0' ≤ c ∧ c ≤ '9' then c.toNat - '0'.toNat
    else if 'a' ≤ c ∧ c ≤ 'z' then c.toNat - 'a'.toNat + 10
    else if 'A' ≤ c ∧ c ≤ 'Z' then c.toNat - 'A'.toNat + 10
    else base
  if d < base then some d else none

/-- Extends the number read so far by a run of digits. -/
def extend (base limit : Nat) : Nat → List Char → Except Defect Nat
  | n, [] => .ok n
  | n, c :: rest =>
    match digit? base c with
    | none => .error .strayCharacter
    | some d => if n * base + d < limit then extend base limit (n * base + d) rest else .error .tooLarge

/-- The value of a numeral below `limit`. -/
def read (base limit : Nat) : List Char → Except Defect Nat
  | [] => .error .empty
  | ['+'] => .error .strayCharacter
  | '+' :: digits => extend base limit 0 digits
  | digits => extend base limit 0 digits

/-- The text starts with the mark of a hexadecimal number. -/
def isMarked : List Char → Bool
  | '0' :: 'x' :: _ => true
  | '0' :: 'X' :: _ => true
  | _ => false

/-- The text without the mark of a hexadecimal number, if it has one. -/
def dropMark : List Char → List Char
  | '0' :: 'x' :: rest => rest
  | '0' :: 'X' :: rest => rest
  | text => text

/-- The text without its underscores. -/
def dropUnderscores (text : List Char) : List Char :=
  text.filter (· != '_')

/-- Values of this size and more do not fit a 64-bit word. -/
def wordLimit : Nat := UInt64.size

/-- A hexadecimal number below `wordLimit`, with or without a mark. -/
def hex? (text : List Char) : Option Nat :=
  (read 16 wordLimit (dropUnderscores (dropMark (trim text)))).toOption

/-- A count below `wordLimit`, decimal unless it is marked as hexadecimal. -/
def count? (text : List Char) : Option Nat :=
  if isMarked (trim text) then hex? (trim text)
  else (read 10 wordLimit (dropUnderscores (trim text))).toOption

theorem extend_lt {base limit : Nat} {text : List Char} {n m : Nat} (hn : n < limit)
    (h : extend base limit n text = .ok m) : m < limit := by
  induction text generalizing n with
  | nil => simp_all [extend]
  | cons c rest ih =>
    simp only [extend] at h
    split at h
    · simp at h
    · split at h
      · exact ih (by assumption) h
      · simp at h

theorem read_lt {base limit : Nat} {text : List Char} {m : Nat} (hl : 0 < limit)
    (h : read base limit text = .ok m) : m < limit := by
  unfold read at h
  split at h
  · simp at h
  · simp at h
  · exact extend_lt hl h
  · exact extend_lt hl h

theorem hex?_lt {text : List Char} {n : Nat} (h : hex? text = some n) : n < wordLimit := by
  unfold hex? at h
  cases hr : read 16 wordLimit (dropUnderscores (dropMark (trim text))) with
  | error e => simp [hr, Except.toOption] at h
  | ok m =>
    simp only [hr, Except.toOption, Option.some.injEq] at h
    exact h ▸ read_lt (by decide) hr

end BootHost.Text.Numeral
