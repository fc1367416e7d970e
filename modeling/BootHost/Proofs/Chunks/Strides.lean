import BootHost.Proofs.Chunks
import Mathlib.Algebra.GroupWithZero.Nat

/-!
# Strides through the memory

A step over a block is worked out on words, and comes out as it does on numbers: it fails exactly when the
block runs over the top, and leads nowhere exactly when the block ends on the last address (`advance_eq_ok_iff`,
`advance_eq_error_iff`). A step over two blocks is therefore two steps, as long as there is an address
between them (`advance_add_eq_ok_iff`), and the steps over any blocks with something in them are one step over
all of them (`advanceAll_eq_ok_iff`). This is how the cursor goes through the rounds of a chunked write.
-/

namespace BootHost.Memory

/-- Steps over blocks, each right behind the one before. Behind the last address nothing has a place. -/
def advanceAll : List Nat → Option UInt64 → Except Fault (Option UInt64)
  | [], cursor => .ok cursor
  | _ :: _, none => .error .endOfAddressSpace
  | length :: lengths, some address =>
    match advance address length with
    | .error e => .error e
    | .ok next => advanceAll lengths next

variable {address : UInt64} {length : Nat} {next : Option UInt64} {e : Fault}

theorem cursorAt_eq_none_iff {position : Nat} : cursorAt position = none ↔ addressCount ≤ position := by
  unfold cursorAt
  split <;> simp <;> omega

theorem cursorAt_eq_some_iff {position : Nat} {word : UInt64} :
    cursorAt position = some word ↔ word.toNat = position := by
  constructor
  · intro h
    unfold cursorAt at h
    split at h
    · rename_i below
      obtain rfl := Option.some.inj h
      exact UInt64.toNat_ofNat_of_lt below
    · simp at h
  · rintro rfl
    exact cursorAt_toNat word

/-- A step over a block that fits leads to the place behind it. -/
theorem advance_eq_ok_iff :
    advance address length = .ok next ↔
      address.toNat + length ≤ addressCount ∧ cursorAt (address.toNat + length) = next := by
  rw [advance_eq]
  by_cases fits : address.toNat + length ≤ addressCount
  · rw [if_pos fits, Except.ok.injEq, and_iff_right fits]
  · rw [if_neg fits]
    simp [fits]

/-- A step fails when the block runs over the top, and for no other reason. -/
theorem advance_eq_error_iff :
    advance address length = .error e ↔
      e = .addressOverflow address length ∧ addressCount < address.toNat + length := by
  rw [advance_eq]
  split
  · rename_i fits
    simp only [reduceCtorEq, false_iff]
    omega
  · rename_i beyond
    rw [Except.error.injEq, and_iff_left (Nat.not_le.1 beyond)]
    exact eq_comm

/-- A step over two blocks is a step over the first one to an address, and one over the second from there. -/
theorem advance_add_eq_ok_iff {first second : Nat} (nonempty : 0 < second) :
    advance address (first + second) = .ok next ↔
      ∃ between, advance address first = .ok (some between) ∧ advance between second = .ok next := by
  simp only [advance_eq_ok_iff, cursorAt_eq_some_iff]
  constructor
  · rintro ⟨fits, behind⟩
    have word : (UInt64.ofNat (address.toNat + first)).toNat = address.toNat + first :=
      UInt64.toNat_ofNat_of_lt (show address.toNat + first < addressCount by omega)
    refine ⟨UInt64.ofNat (address.toNat + first), ⟨by omega, word⟩, ?_⟩
    rw [word, Nat.add_assoc]
    exact ⟨fits, behind⟩
  · rintro ⟨between, ⟨-, place⟩, fits, behind⟩
    rw [place, Nat.add_assoc] at fits behind
    exact ⟨fits, behind⟩

theorem sum_pos {lengths : List Nat} (nonempty : ∀ n ∈ lengths, 0 < n) (h : lengths ≠ []) :
    0 < lengths.sum := by
  obtain ⟨length, rest, rfl⟩ := List.exists_cons_of_ne_nil h
  rw [List.sum_cons]
  exact Nat.add_pos_left (nonempty length List.mem_cons_self) _

/-- Steps over blocks with something in them are one step over all of them. -/
theorem advanceAll_eq_ok_iff {lengths : List Nat} (nonempty : ∀ n ∈ lengths, 0 < n) :
    advanceAll lengths (some address) = .ok next ↔ advance address lengths.sum = .ok next := by
  induction lengths generalizing address with
  | nil => rfl
  | cons length rest ih =>
    have later : ∀ n ∈ rest, 0 < n := fun n h => nonempty n (List.mem_cons_of_mem _ h)
    unfold advanceAll
    rw [List.sum_cons]
    by_cases last : rest = []
    · subst last
      rw [List.sum_nil, Nat.add_zero]
      cases advance address length <;> rfl
    · rw [advance_add_eq_ok_iff (sum_pos later last)]
      -- behind the first block there has to be an address for the next one
      rcases advance address length with e | (_ | between)
      · simp
      · obtain ⟨block, blocks, rfl⟩ := List.exists_cons_of_ne_nil last
        simp [advanceAll]
      · simp [ih later]

/-- The cursor goes through acknowledged rounds by steps over their chunks. -/
theorem Access.Rounds.advanceAll {σ : Type} [Port σ] {chunks : List Payload} {source rest : Source}
    {a b : Access σ} (h : Rounds chunks source a rest b) :
    advanceAll (chunks.map fun p => p.bytes.length) a.cursor = .ok b.cursor := by
  induction h with
  | nil => rfl
  | @cons p chunks source left rest a a' b address next _ _ hp _ _ ih =>
    obtain ⟨here, fits, behind⟩ := cursor_of_place hp
    have step : advance address p.bytes.length = .ok next := advance_eq_ok_iff.2 ⟨fits, behind.symm⟩
    rw [List.map_cons, here, Memory.advanceAll, step]
    exact ih

theorem Access.Rounds.nonempty {σ : Type} [Port σ] {chunks : List Payload} {source rest : Source}
    {a b : Access σ} (h : Rounds chunks source a rest b) : ∀ n ∈ chunks.map fun p => p.bytes.length, 0 < n := by
  induction h with
  | nil => simp
  | cons _ some _ _ _ ih =>
    simp only [List.map_cons, List.forall_mem_cons]
    exact ⟨List.length_pos_iff.2 some, ih⟩

/-- How the steps from an address go. -/
structure Strides (address : UInt64) : Prop where
  /-- A step fails exactly when its block runs over the top. -/
  beyond (length : Nat) (e : Fault) : advance address length = .error e ↔
    e = .addressOverflow address length ∧ 0 < length ∧ addressCount < address.toNat + length
  /-- It leads nowhere exactly when its block ends on the last address. -/
  upToTop (length : Nat) : advance address length = .ok none ↔
    0 < length ∧ address.toNat + length = addressCount
  /-- Otherwise it leads to the address that is the sum. -/
  below (length : Nat) (next : UInt64) : advance address length = .ok (some next) ↔
    next.toNat = address.toNat + length
  /-- A step over two blocks is two steps. -/
  splits (first second : Nat) (next : Option UInt64) : 0 < second →
    (advance address (first + second) = .ok next ↔
      ∃ between, advance address first = .ok (some between) ∧ advance between second = .ok next)
  /-- The steps over many blocks are one step over all of them. -/
  joins (lengths : List Nat) (next : Option UInt64) : (∀ n ∈ lengths, 0 < n) →
    (advanceAll lengths (some address) = .ok next ↔ advance address lengths.sum = .ok next)
  /-- So acknowledged chunks move a cursor from here by one step over all of them. -/
  rounds {σ : Type} [Port σ] {chunks : List Payload} {source rest : Source} {a b : Access σ} :
    a.cursor = some address → Access.Rounds chunks source a rest b →
    advance address (chunks.map fun p => p.bytes.length).sum = .ok b.cursor

/-- A step over a block is exact up to the top of the memory, and can be cut wherever there is an address. -/
theorem advance_is_exact (address : UInt64) : Strides address := by
  have word : address.toNat < addressCount := address.toNat_lt_size
  constructor
  case beyond =>
    intro length e
    rw [advance_eq_error_iff]
    constructor
    · rintro ⟨told, beyond⟩
      exact ⟨told, by omega, beyond⟩
    · rintro ⟨told, -, beyond⟩
      exact ⟨told, beyond⟩
  case upToTop =>
    intro length
    rw [advance_eq_ok_iff, cursorAt_eq_none_iff]
    omega
  case below =>
    intro length next
    have word' : next.toNat < addressCount := next.toNat_lt_size
    rw [advance_eq_ok_iff, cursorAt_eq_some_iff]
    omega
  case splits => exact fun first second next nonempty => advance_add_eq_ok_iff nonempty
  case joins => exact fun lengths next nonempty => advanceAll_eq_ok_iff nonempty
  case rounds =>
    intro σ _ chunks source rest a b here rounds
    rw [← advanceAll_eq_ok_iff rounds.nonempty, ← here]
    exact rounds.advanceAll

/-- Four blocks that fill the memory from the fourth last address on, and one byte more. -/
example :
    advanceAll [1, 1, 1, 1] (some 0xFFFFFFFFFFFFFFFC) = .ok none ∧
      advance 0xFFFFFFFFFFFFFFFC 4 = .ok none ∧
      advance 0xFFFFFFFFFFFFFFFC 5 = .error (.addressOverflow 0xFFFFFFFFFFFFFFFC 5) := by
  decide

end BootHost.Memory
