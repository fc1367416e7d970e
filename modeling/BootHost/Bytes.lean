/-!
# Bytes and big-endian numbers

Everything on the line is a list of bytes, and every number in it is written with its most
significant byte first. `BigEndian.encode` writes a number on a fixed width and drops what does
not fit, `BigEndian.value` reads any run of bytes as a number; `value_encode` ties the two.
-/

namespace BootHost

/-- A run of bytes. -/
abbrev Bytes := List UInt8

namespace BigEndian

/-- The `width` low-order bytes of `n`, most significant first. -/
def encode : Nat → Nat → Bytes
  | 0, _ => []
  | width + 1, n => encode width (n / 256) ++ [UInt8.ofNat n]

/-- How many numbers a width has room for. -/
def capacity : Nat → Nat
  | 0 => 1
  | width + 1 => 256 * capacity width

/-- The number that the bytes spell, most significant first. -/
def value (bytes : Bytes) : Nat :=
  bytes.foldl (fun n b => n * 256 + b.toNat) 0

@[simp] theorem length_encode (width n : Nat) : (encode width n).length = width := by
  induction width generalizing n with
  | zero => rfl
  | succ width ih => simp [encode, ih]

@[simp] theorem value_nil : value [] = 0 := rfl

theorem value_append_singleton (bytes : Bytes) (b : UInt8) :
    value (bytes ++ [b]) = value bytes * 256 + b.toNat := by
  simp [value]

/-- What was written on a width is read back, as far as the width has room for it. -/
theorem value_encode (width n : Nat) : value (encode width n) = n % capacity width := by
  induction width generalizing n with
  | zero => simp [encode, capacity, Nat.mod_one]
  | succ width ih =>
    rw [encode, value_append_singleton, ih, capacity, Nat.mod_mul, UInt8.toNat_ofNat']
    omega

end BigEndian

end BootHost
