import BootHost.Line

/-!
# Transfers

The two things the host needs of a line: to send all of some bytes, and to receive exactly a
number of them. Partial calls are continued where they stopped, and a call that timed out or was
interrupted is made again. Both end, because a port has a finite budget.
-/

namespace BootHost.Line

variable {σ : Type} [Port σ]

/-- Sends all of `bytes`, then flushes. -/
def send (bytes : Bytes) (l : Line σ) : Except DeviceFault Unit × Line σ :=
  match bytes with
  | [] => l.flush
  | b :: rest =>
    match h : l.write (b :: rest) with
    | (.ok 0, l') => (.error .writeStopped, l')
    | (.ok (k + 1), l') => send (rest.drop k) (l'.note (.accepted (k + 1)))
    | (.error e, l') => if _ht : e.isTransient = true then send (b :: rest) l' else (.error e, l')
termination_by l.budget + bytes.length
decreasing_by
  · have := budget_write_le (b :: rest) l
    rw [h] at this
    simp only [budget_note, List.length_drop, List.length_cons] at this ⊢
    omega
  · have := budget_write_retry h _ht
    simp only [List.length_cons]
    omega

/-- Collects `need` more bytes of `total`; `got` holds the earlier ones, the latest first. -/
def collect (total : Nat) (got : Bytes) (need : Nat) (l : Line σ) : Except DeviceFault Bytes × Line σ :=
  if need = 0 then (.ok got.reverse, l)
  else
    match _h : l.read need with
    | (.ok [], l') => (.error (.closedAfter (total - need) total), l')
    | (.ok (b :: bytes), l') =>
      collect total ((b :: bytes).reverseAux got) (need - (b :: bytes).length)
        (l'.note (.received (b :: bytes).length))
    | (.error e, l') => if _ht : e.isTransient = true then collect total got need l' else (.error e, l')
termination_by l.budget
decreasing_by
  · exact show l'.budget < l.budget from budget_read_lt _h (List.cons_ne_nil b bytes)
  · exact budget_read_retry _h _ht

/-- Receives exactly `count` bytes. -/
def receive (count : Nat) (l : Line σ) : Except DeviceFault Bytes × Line σ :=
  collect count [] count l

/-- Receives one byte. -/
def receiveByte (l : Line σ) : Except DeviceFault UInt8 × Line σ :=
  match l.receive 1 with
  | (.ok (b :: _), l') => (.ok b, l')
  | (.ok [], l') => (.error .noByte, l')
  | (.error e, l') => (.error e, l')

theorem budget_collect_le (total : Nat) (got : Bytes) (need : Nat) (l : Line σ) :
    (collect total got need l).2.budget ≤ l.budget := by
  fun_induction collect total got need l with
  | case1 => exact Nat.le_refl _
  | case2 got need l _ l' h =>
    have := budget_read_le need l
    rwa [h] at this
  | case3 got need l _ b bytes l' h ih =>
    have : l'.budget < l.budget := budget_read_lt h (List.cons_ne_nil b bytes)
    exact Nat.le_trans ih (Nat.le_of_lt this)
  | case4 got need l _ e l' h ht ih =>
    exact Nat.le_trans ih (Nat.le_of_lt (budget_read_retry h ht))
  | case5 got need l _ e l' h _ =>
    have := budget_read_le need l
    rwa [h] at this

/-- Bytes that were received have used up some of the port. -/
theorem budget_collect_lt {total : Nat} {got : Bytes} {need : Nat} {l l' : Line σ} {bytes : Bytes}
    (h : collect total got need l = (.ok bytes, l')) (hn : need ≠ 0) : l'.budget < l.budget := by
  unfold collect at h
  rw [if_neg hn] at h
  split at h
  · simp at h
  · rename_i b data l₁ hr
    have hle := budget_collect_le total ((b :: data).reverseAux got) (need - (b :: data).length)
      (l₁.note (.received (b :: data).length))
    rw [h] at hle
    have : l₁.budget < l.budget := budget_read_lt hr (List.cons_ne_nil b data)
    exact Nat.lt_of_le_of_lt hle this
  · rename_i e l₁ hr
    split at h
    · rename_i ht
      have hle := budget_collect_le total got need l₁
      rw [h] at hle
      exact Nat.lt_of_le_of_lt hle (budget_read_retry hr ht)
    · simp at h

theorem budget_receiveByte_lt {l l' : Line σ} {b : UInt8} (h : l.receiveByte = (.ok b, l')) :
    l'.budget < l.budget := by
  unfold receiveByte at h
  split at h
  · rename_i c rest l₁ hr
    obtain ⟨-, rfl⟩ := Prod.mk.inj h
    exact budget_collect_lt hr (by decide)
  · simp at h
  · simp at h

end BootHost.Line
