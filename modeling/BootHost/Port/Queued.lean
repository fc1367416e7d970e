import BootHost.Port

/-!
# Queued ports

A port whose incoming bytes are queued up from the start. It may hand them out and take bytes in
small portions, time out a number of times before it says anything, and break once it has taken
a given number of bytes.
-/

namespace BootHost

/-- A port with all its incoming bytes in a queue. -/
structure Queued where
  incoming : Bytes
  /-- The most bytes that a read brings; a limit of zero counts as one. -/
  readLimit : Option Nat := none
  /-- The most bytes that a write takes; a limit of zero counts as one. -/
  writeLimit : Option Nat := none
  /-- How many reads still time out. -/
  stalls : Nat := 0
  /-- How many bytes can be written before the line breaks. -/
  room : Option Nat := none

namespace Queued

/-- The part of some bytes that a limit lets through. -/
def upTo : Option Nat → Bytes → Bytes
  | none, bytes => bytes
  | some n, bytes => bytes.take n

/-- A limit on the size of one call, which lets one byte through at least. -/
def portion (limit : Option Nat) : Option Nat := limit.map (max 1)

/-- What a read says while the port still stalls. -/
def nothingYet : DeviceFault := ⟨.timedOut, "nothing yet"⟩

/-- What a write says once the line is broken. -/
def cablePulled : DeviceFault := ⟨.brokenPipe, "cable pulled"⟩

/-- How many bytes a read of `n` bytes asks the queue for. -/
def askFor (n : Nat) (q : Queued) : Nat :=
  match portion q.readLimit with
  | none => n
  | some limit => min n limit

/-- Times out while there are stalls left, then hands out the front of the queue. -/
def read (n : Nat) (q : Queued) : Except DeviceFault Bytes × Queued :=
  match q.stalls with
  | stalls + 1 => (.error nothingYet, { q with stalls := stalls })
  | 0 => (.ok (q.incoming.take (q.askFor n)), { q with incoming := q.incoming.drop (q.askFor n) })

/-- The part of the offered bytes that a write takes. -/
def takes (bytes : Bytes) (q : Queued) : Bytes :=
  upTo q.room (upTo (portion q.writeLimit) bytes)

/-- Takes what the limits let through, unless the line is broken. -/
def write (bytes : Bytes) (q : Queued) : Except DeviceFault Nat × Queued :=
  if q.room = some 0 then (.error cablePulled, q)
  else
    let count := (q.takes bytes).length
    (.ok count, { q with room := q.room.map (· - count) })

/-- Adds bytes to the end of the queue. -/
def push (bytes : Bytes) (q : Queued) : Queued :=
  { q with incoming := q.incoming ++ bytes }

/-- Stalls left and bytes queued. -/
def budget (q : Queued) : Nat := q.stalls + q.incoming.length

theorem length_upTo_le (limit : Option Nat) (bytes : Bytes) :
    (upTo limit bytes).length ≤ bytes.length := by
  cases limit with
  | none => exact Nat.le_refl _
  | some n => exact List.length_take_le' ..

theorem askFor_le (n : Nat) (q : Queued) : q.askFor n ≤ n := by
  unfold askFor
  split
  · exact Nat.le_refl n
  · exact Nat.min_le_left ..

instance : Port Queued where
  read := read
  write := write
  flush q := (.ok (), q)
  budget := budget
  read_length_le {n q bytes} h := by
    unfold read at h
    split at h
    · simp at h
    · simp only [Except.ok.injEq] at h
      have := q.askFor_le n
      rw [← h, List.length_take]
      omega
  write_le_length {bytes q k} h := by
    unfold write at h
    split at h
    · simp at h
    · simp only [Except.ok.injEq] at h
      rw [← h]
      exact Nat.le_trans (length_upTo_le ..) (length_upTo_le ..)
  budget_read_le n q := by
    unfold read
    split
    · simp only [budget]
      omega
    · simp only [budget, List.length_drop]
      omega
  budget_read_lt {n q bytes} h hne := by
    unfold read at h ⊢
    split at h
    · simp at h
    · rename_i h0
      simp only [Except.ok.injEq] at h
      have := List.length_pos_iff.2 (h ▸ hne)
      simp only [List.length_take, budget, List.length_drop, h0] at this ⊢
      omega
  budget_read_retry {n q e} h _ := by
    unfold read at h ⊢
    split at h
    · simp only [budget]; omega
    · simp at h
  budget_write_le bytes q := by
    unfold write
    split <;> simp [budget]
  budget_write_retry {bytes q e} h ht := by
    unfold write at h
    split at h
    · simp only [Except.error.injEq] at h
      subst h
      simp [cablePulled, DeviceFault.isTransient] at ht
    · simp at h
  budget_flush_le _ := Nat.le_refl _

variable {q : Queued} {count : Nat} {bytes : Bytes}

/-- A read asks the queue for something, even if the limit is zero. -/
theorem askFor_ne_zero (asks : count ≠ 0) : q.askFor count ≠ 0 := by
  cases limit : q.readLimit <;> simp [askFor, portion, limit] <;> omega

theorem read_of_stalls {stalls : Nat} (h : q.stalls = stalls + 1) :
    Port.read count q = (.error nothingYet, { q with stalls := stalls }) := by
  change q.read count = _
  rw [read, h]

theorem read_of_no_stalls (h : q.stalls = 0) :
    Port.read count q =
      (.ok (q.incoming.take (q.askFor count)), { q with incoming := q.incoming.drop (q.askFor count) }) := by
  change q.read count = _
  rw [read, h]

theorem write_of_room (h : q.room ≠ some 0) :
    Port.write bytes q =
      (.ok (q.takes bytes).length, { q with room := q.room.map (· - (q.takes bytes).length) }) := by
  change q.write bytes = _
  rw [write, if_neg h]

theorem write_of_no_room (h : q.room = some 0) : Port.write bytes q = (.error cablePulled, q) := by
  change q.write bytes = _
  rw [write, if_pos h]

end Queued

end BootHost
