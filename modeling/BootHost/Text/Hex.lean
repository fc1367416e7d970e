import BootHost.Bytes

/-!
# Hexadecimal text

Three spellings: a number behind the mark `0x`, a byte as two digits, and a run of bytes as one
run of digits.
-/

namespace BootHost.Text.Hex

/-- The digits of a number, in lower case. -/
def digits (n : Nat) : String :=
  String.ofList (Nat.toDigits 16 n)

/-- A number in lower case behind its mark. -/
def marked (n : Nat) : String :=
  "0x" ++ digits n

/-- A number in upper case, filled up with zeros to `width` digits. -/
def upper (width n : Nat) : List Char :=
  let ds := (Nat.toDigits 16 n).map Char.toUpper
  List.replicate (width - ds.length) '0' ++ ds

/-- The two digits of a byte, in lower case. -/
def pair (b : UInt8) : List Char :=
  [Nat.digitChar (b.toNat / 16), Nat.digitChar (b.toNat % 16)]

/-- The two digits of a byte, in upper case. -/
def upperPair (b : UInt8) : List Char :=
  (pair b).map Char.toUpper

/-- A byte in lower case behind the mark of a number. -/
def markedByte (b : UInt8) : String :=
  "0x" ++ String.ofList (pair b)

/-- The bytes as one run of lower-case digits. -/
def ofBytes (bytes : Bytes) : String :=
  String.ofList (bytes.flatMap pair)

@[simp] theorem length_pair (b : UInt8) : (pair b).length = 2 := rfl

/-- The two digits of a byte stand for it. -/
theorem exists_pair_eq (b : UInt8) :
    ∃ high low, pair b = [Nat.digitChar high, Nat.digitChar low] ∧ high < 16 ∧ low < 16 ∧
      UInt8.ofNat (16 * high + low) = b := by
  refine ⟨b.toNat / 16, b.toNat % 16, rfl, Nat.div_lt_of_lt_mul b.toNat_lt_size, ?_, ?_⟩
  · exact Nat.mod_lt _ (by decide)
  · rw [Nat.div_add_mod, UInt8.ofNat_toNat]

end BootHost.Text.Hex
