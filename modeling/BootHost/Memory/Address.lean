import BootHost.Fault

/-!
# Addresses

The board's memory has an address for every 64-bit word. `advance` steps over a block: the next
address, none when the block ends on the last one, and a fault when it does not fit. It is worked out on
words, and there is no word for the place behind the last address. So the step goes to the last byte of
the block first, and one further from there, each time by a sum that is given up when it wraps around.
-/

namespace BootHost.Memory

/-- Number of addresses. -/
def addressCount : Nat := UInt64.size

/-- The sum of two words, unless it wraps around. -/
def sum? (a b : UInt64) : Option UInt64 :=
  if a + b < a then none else some (a + b)

/-- The address of the last byte of a block that is not empty, if the block fits. -/
def last? (address : UInt64) (length : Nat) : Option UInt64 :=
  if length ≤ addressCount then sum? address (UInt64.ofNat (length - 1)) else none

/-- The first address past `length` bytes at `address`, if there is one. -/
def advance (address : UInt64) (length : Nat) : Except Fault (Option UInt64) :=
  if length = 0 then .ok (some address)
  else
    match last? address length with
    | some last => .ok (sum? last 1)
    | none => .error (.addressOverflow address length)

/-- A sum wraps around when it is no word. -/
theorem sum_lt_iff {a b : UInt64} : a + b < a ↔ addressCount ≤ a.toNat + b.toNat := by
  have small : a.toNat < addressCount := a.toNat_lt_size
  have small' : b.toNat < addressCount := b.toNat_lt_size
  rw [UInt64.lt_iff_toNat_lt, UInt64.toNat_add]
  simp only [addressCount, UInt64.size] at small small' ⊢
  omega

theorem sum?_eq_none_iff {a b : UInt64} : sum? a b = none ↔ addressCount ≤ a.toNat + b.toNat := by
  rw [← sum_lt_iff, sum?]
  split <;> simp_all

/-- A sum that is not given up is the sum of the numbers. -/
theorem sum?_eq_some_iff {a b c : UInt64} : sum? a b = some c ↔ c.toNat = a.toNat + b.toNat := by
  have word : c.toNat < addressCount := c.toNat_lt_size
  by_cases wraps : addressCount ≤ a.toNat + b.toNat
  · rw [sum?_eq_none_iff.2 wraps]
    simp only [reduceCtorEq, false_iff]
    omega
  · have sum : (a + b).toNat = a.toNat + b.toNat := by
      rw [UInt64.toNat_add]
      exact Nat.mod_eq_of_lt (Nat.not_le.1 wraps)
    rw [sum?, if_neg fun less => wraps (sum_lt_iff.1 less), Option.some.injEq, ← UInt64.toNat_inj, sum]
    exact eq_comm

/-- The way to the last byte of a block is a word, if the block is not larger than the memory. -/
theorem toNat_span {length : Nat} (nonempty : 0 < length) (least : length ≤ addressCount) :
    (UInt64.ofNat (length - 1)).toNat = length - 1 :=
  UInt64.toNat_ofNat_of_lt (show length - 1 < addressCount by omega)

/-- The last byte of a block stands right before the place behind the block. -/
theorem last?_eq_some_iff {address last : UInt64} {length : Nat} (nonempty : 0 < length) :
    last? address length = some last ↔ last.toNat + 1 = address.toNat + length := by
  have word : last.toNat < addressCount := last.toNat_lt_size
  unfold last?
  split
  · rename_i least
    rw [sum?_eq_some_iff, toNat_span nonempty least]
    omega
  · simp only [reduceCtorEq, false_iff]
    omega

theorem last?_eq_none_iff {address : UInt64} {length : Nat} (nonempty : 0 < length) :
    last? address length = none ↔ addressCount < address.toNat + length := by
  unfold last?
  split
  · rename_i least
    rw [sum?_eq_none_iff, toNat_span nonempty least]
    omega
  · simp only [true_iff]
    omega

end BootHost.Memory
