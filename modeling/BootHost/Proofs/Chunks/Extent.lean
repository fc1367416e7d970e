import BootHost.Proofs.Chunks.Room

/-!
# How much a write tells of

A write tells how many bytes it wrote, be it all of them at its end or some of them in a partial write. The
cursor has gone over each of these bytes, and it goes no further than the memory; the bytes of a value, which
leave it where it is, have their place there. So no count is larger than the memory behind the cursor, and
there are no more chunks than bytes (`Within`). A count is a 64-bit word then, unless the write began on
the first address and came to the end of the memory.
-/

namespace BootHost

open Memory

/-- The bytes that a fault tells were written. -/
def Fault.counted : Fault → Nat
  | .partialWrite count _ => count
  | _ => 0

theorem Fault.counted_of_isUsage {e : Fault} (usage : e.isUsage = true) : e.counted = 0 := by
  cases e with
  | partialWrite => cases usage
  | _ => rfl

theorem Fault.counted_of_isExternal {e : Fault} (external : e.isExternal = true) : e.counted = 0 := by
  cases e with
  | partialWrite => cases external
  | _ => rfl

namespace Memory.Access

/-- The bytes that a write tells it wrote. -/
def counted : Except Fault Written → Nat
  | .ok w => w.bytes
  | .error e => e.counted

/-- What a write counts has its place behind a position, with a byte at least to each chunk. -/
structure Within (position : Nat) (r : Except Fault Written) : Prop where
  bytes : position + counted r ≤ addressCount
  chunks (w : Written) : r = .ok w → w.chunks ≤ w.bytes

variable {σ : Type} {a a' b : Access σ} {source rest : Source} {w : Written} {r : Except Fault Written}

/-- A count is a word, but for that of the whole memory. -/
theorem Within.isWord {position : Nat} (h : Within position r) :
    counted r < UInt64.size ∨ position = 0 ∧ counted r = UInt64.size := by
  have bytes : position + counted r ≤ UInt64.size := h.bytes
  omega

/-- A fault that counts nothing has its place. -/
theorem Within.of_error {e : Fault} (nothing : e.counted = 0) (a : Access σ) :
    Within (positionOf a.cursor) (.error e) where
  bytes := by
    rw [counted, nothing]
    exact positionOf_le a.cursor
  chunks _ told := by cases told

variable [Port σ]

/-- The end of a chunked write tells of nothing but what was acknowledged. -/
theorem Ending.counted_le (h : Ending w source a r rest a') : counted r ≤ w.bytes := by
  cases h with
  | done => exact Nat.le_refl _
  | unread => exact Nat.zero_le _
  | @misplaced _ _ e _ _ hp =>
    -- the one end that counts: behind the first chunk the fault becomes a partial write
    unfold stopped
    split
    · exact Nat.le_refl _
    · rw [counted, Fault.counted_of_isUsage (isUsage_of_place hp)]
      exact Nat.zero_le _
  | broken _ _ _ hw =>
    rw [counted, Fault.counted_of_isExternal (external_of_writeBlock hw)]
    exact Nat.zero_le _

theorem writeAll_within (source : Source) (a : Access σ) :
    Within (positionOf a.cursor) (a.writeAll source).1 := by
  cases begun : a.cursor with
  | none =>
    rw [writeAll_of_none begun, ← begun]
    exact .of_error rfl a
  | some start =>
    rw [writeAll_of_cursor begun, ← begun]
    rcases whole : a.writeChunks ⟨start, 0, 0⟩ source with ⟨r, rest, a'⟩
    obtain ⟨chunks, left, b, rounds, ending⟩ := writeChunks_eq_iff.1 whole
    have fits := rounds.leaves.fits
    have count := ending.counted_le
    simp only [Written.addAll, Nat.zero_add] at count
    constructor
    case bytes => exact Nat.le_trans (Nat.add_le_add_left count _) fits
    case chunks =>
      intro w told
      obtain rfl : r = .ok w := told
      cases ending
      simp only [Written.addAll, Nat.zero_add]
      exact rounds.length_le

theorem writeFile_within (storage : Storage) (path : String) (a : Access σ) :
    Within (positionOf a.cursor) (a.writeFile storage path).1 := by
  cases opens : storage path with
  | error cause =>
    rw [writeFile_of_unopened opens]
    exact .of_error rfl a
  | ok file =>
    cases accepted : a.checkSize file.size with
    | error e =>
      obtain ⟨size, -, misplaced⟩ := checkSize_eq_error_iff.1 accepted
      rw [writeFile_of_refused opens accepted]
      exact .of_error (Fault.counted_of_isUsage (isUsage_of_place misplaced)) a
    | ok _ =>
      have written := writeAll_within file.content (a.counting file.size)
      rw [writeFile_of_accepted opens accepted rfl]
      exact written

theorem writeValue_within (value : UInt64) (length : Nat) (a : Access σ) :
    Within (positionOf a.cursor) (a.writeValue value length).1 := by
  unfold writeValue Command.valueBytes
  by_cases short : 1 ≤ length ∧ length ≤ 8
  · rw [if_pos short]
    dsimp only
    rcases hp : a.place length with e | ⟨address, next⟩
    · exact .of_error (Fault.counted_of_isUsage (isUsage_of_place hp)) a
    · obtain ⟨here, fits, -⟩ := cursor_of_place hp
      let p : Payload := ⟨_, Command.countable_of_value value short.2⟩
      dsimp only
      rcases hw : (a.note (.writingValue address value length)).writeBlock address p.bytes with ⟨e | _, a'⟩
      · exact .of_error (Fault.counted_of_isExternal (external_of_writeBlock hw)) a
      · rw [here]
        constructor
        case bytes => exact fits
        case chunks =>
          intro w told
          cases told
          exact short.1
  · rw [if_neg short]
    exact .of_error rfl a

end Memory.Access

end BootHost
