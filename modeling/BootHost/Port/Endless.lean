import BootHost.Port.Scripted

/-!
# Endless ports

A port that goes on for ever, and so may keep the host busy for ever: what the next call meets is
told by the number of calls made before it. It is cut off after some number of calls, behind which
every call fails for good. Up to there the host cannot tell the difference, so whatever is shown of
every port is shown of a port that never ends, after any number of calls.
-/

namespace BootHost

/-- A port that follows a script without an end, for a number of calls. -/
structure Endless where
  reads : Nat → Piece
  writes : Nat → Acceptance
  flushes : Nat → Except DeviceFault Unit
  /-- How many calls were made. -/
  made : Nat := 0
  /-- How many calls are left. -/
  left : Nat

namespace Endless

variable {ρ : Type}

/-- What every call says once the port is cut off. -/
def cutOff : DeviceFault := ⟨.brokenPipe, "cut off"⟩

/-- One call, with what it meets. -/
def call (meets : Nat → Except DeviceFault ρ) (e : Endless) : Except DeviceFault ρ × Endless :=
  match e.left with
  | 0 => (.error cutOff, e)
  | left + 1 => (meets e.made, { e with made := e.made + 1, left := left })

/-- What a read of `n` bytes meets. -/
def brings (n : Nat) : Piece → Except DeviceFault Bytes
  | .data bytes => .ok (bytes.take n)
  | .fault e => .error e

/-- What a write of `bytes` meets. -/
def takes (bytes : Bytes) : Acceptance → Except DeviceFault Nat
  | .upTo count => .ok (bytes.take count).length
  | .fault e => .error e

variable {e : Endless} {meets : Nat → Except DeviceFault ρ}

theorem left_call_le (e : Endless) : (e.call meets).2.left ≤ e.left := by
  unfold call
  split
  · exact Nat.le_refl _
  · simp_all

/-- Only a call that is cut off does not use up one of the calls. -/
theorem left_call_lt (h : (e.call meets).1 ≠ .error cutOff) : (e.call meets).2.left < e.left := by
  unfold call at h ⊢
  split <;> simp_all

theorem left_call_retry {f : DeviceFault} (h : (e.call meets).1 = .error f)
    (transient : f.isTransient = true) : (e.call meets).2.left < e.left := by
  apply left_call_lt
  intro cut
  obtain rfl := Except.error.inj (h.symm.trans cut)
  simp [cutOff, DeviceFault.isTransient] at transient

theorem meets_of_call {r : ρ} (h : (e.call meets).1 = .ok r) : meets e.made = .ok r := by
  unfold call at h
  split at h
  · simp at h
  · exact h

instance : Port Endless where
  read n e := e.call fun i => brings n (e.reads i)
  write bytes e := e.call fun i => takes bytes (e.writes i)
  flush e := e.call e.flushes
  budget := left
  read_length_le {n e bytes} h := by
    have met := meets_of_call h
    unfold brings at met
    split at met
    · simp only [Except.ok.injEq] at met
      exact met ▸ List.length_take_le ..
    · simp at met
  write_le_length {bytes e k} h := by
    have met := meets_of_call h
    unfold takes at met
    split at met
    · simp only [Except.ok.injEq] at met
      exact met ▸ List.length_take_le' ..
    · simp at met
  budget_read_le _ e := e.left_call_le
  budget_read_lt h _ := by
    apply left_call_lt
    simp [h]
  budget_read_retry := left_call_retry
  budget_write_le _ e := e.left_call_le
  budget_write_retry := left_call_retry
  budget_flush_le e := e.left_call_le

end Endless

end BootHost
