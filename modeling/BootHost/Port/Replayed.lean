import BootHost.Port

/-!
# Replayed ports

A port that knows what a device has delivered so far and not what comes next. A read past the
known bytes stops the run and says how many bytes it would have liked; when they have come, the run
is made again from the start and gets further, because the same bytes lead it the same way. All
that is written is taken, for whoever watches the line to pass on.
-/

namespace BootHost

/-- A port that has delivered some bytes already. -/
structure Replayed where
  incoming : Bytes
  /-- Nothing more will come. -/
  closed : Bool := false
  /-- What the first read asked for that found nothing yet. -/
  wanted : Option Nat := none

namespace Replayed

/-- What a read says when it has to wait for the device. -/
def notYet : DeviceFault := ⟨.wouldBlock, "the device has not answered yet"⟩

/-- Hands out known bytes; past them it is either the end or too early to say. -/
def read (n : Nat) (r : Replayed) : Except DeviceFault Bytes × Replayed :=
  match r.incoming with
  | [] => if r.closed || n == 0 then (.ok [], r) else (.error notYet, { r with wanted := r.wanted <|> some n })
  | b :: rest => (.ok ((b :: rest).take n), { r with incoming := (b :: rest).drop n })

instance : Port Replayed where
  read := read
  write bytes r := (.ok bytes.length, r)
  flush r := (.ok (), r)
  budget r := r.incoming.length
  read_length_le {n r bytes} h := by
    unfold read at h
    split at h
    · split at h <;> simp at h
      simp [h]
    · simp only [Except.ok.injEq] at h
      exact h ▸ List.length_take_le ..
  write_le_length h := by
    simp only [Except.ok.injEq] at h
    exact Nat.le_of_eq h.symm
  budget_read_le n r := by
    unfold read
    split
    · split <;> exact Nat.le_refl _
    · rename_i h
      simp [h, List.length_drop]
  budget_read_lt {n r bytes} h hne := by
    unfold read at h ⊢
    split at h
    · split at h <;> simp at h
      exact absurd h hne
    · rename_i hr
      simp only [Except.ok.injEq] at h
      have := List.length_pos_iff.2 (h ▸ hne)
      simp only [List.length_take, hr, List.length_drop] at this ⊢
      omega
  budget_read_retry {n r e} h ht := by
    unfold read at h
    split at h
    · split at h <;> simp at h
      subst h
      simp [notYet, DeviceFault.isTransient] at ht
    · simp at h
  budget_write_le _ _ := Nat.le_refl _
  budget_write_retry h _ := by simp at h
  budget_flush_le _ := Nat.le_refl _

end Replayed

end BootHost
