import BootHost.Line.Transfer

/-!
# Transfers over any port

What sending and receiving leave behind in the traffic, whatever the port does. A send that
completes adds all its bytes and closes a group; one that fails adds some of the first ones and
closes none. A receive that completes adds as many deliveries as were asked for; one that fails
adds fewer.
-/

namespace BootHost

namespace Traffic

@[simp] theorem take_nil (t : Traffic) : t.take [] = t := rfl

theorem take_take (first second : Bytes) (t : Traffic) :
    (t.take first).take second = t.take (first ++ second) := by
  simp [take, List.reverseAux_eq, Nat.add_assoc]

@[simp] theorem deliver_zero (t : Traffic) : t.deliver 0 = t := rfl

theorem deliver_deliver (first second : Nat) (t : Traffic) :
    (t.deliver first).deliver second = t.deliver (first + second) := by
  simp [deliver, Nat.add_assoc]

@[simp] theorem pendingRev_flush (t : Traffic) : t.flush.pendingRev = [] := by
  unfold flush
  split
  · assumption
  · rfl

@[simp] theorem delivered_flush (t : Traffic) : t.flush.delivered = t.delivered := by
  unfold flush
  split <;> rfl

@[simp] theorem delivered_deliver (count : Nat) (t : Traffic) :
    (t.deliver count).delivered = t.delivered + count := rfl

@[simp] theorem delivered_take (bytes : Bytes) (t : Traffic) : (t.take bytes).delivered = t.delivered := rfl

end Traffic

namespace Line

variable {σ : Type} [Port σ] {l l' : Line σ}

theorem traffic_of_read_ok {n : Nat} {bytes : Bytes} (h : l.read n = (.ok bytes, l')) :
    bytes.length ≤ n ∧ l'.traffic = l.traffic.deliver bytes.length := by
  have asked := Port.read_length_le ((read_fst n l).symm.trans (congrArg Prod.fst h))
  unfold read at h
  split at h
  · simp only [Prod.mk.injEq, Except.ok.injEq] at h
    obtain ⟨rfl, rfl⟩ := h
    exact ⟨asked, rfl⟩
  · simp at h

theorem traffic_of_read_error {n : Nat} {e : DeviceFault} (h : l.read n = (.error e, l')) :
    l'.traffic = l.traffic := by
  unfold read at h
  split at h
  · simp at h
  · simp only [Prod.mk.injEq] at h
    exact h.2 ▸ rfl

theorem traffic_of_write_ok {bytes : Bytes} {k : Nat} (h : l.write bytes = (.ok k, l')) :
    k ≤ bytes.length ∧ l'.traffic = l.traffic.take (bytes.take k) := by
  have offered := Port.write_le_length ((write_fst bytes l).symm.trans (congrArg Prod.fst h))
  unfold write at h
  split at h
  · simp only [Prod.mk.injEq, Except.ok.injEq] at h
    obtain ⟨rfl, rfl⟩ := h
    exact ⟨offered, rfl⟩
  · simp at h

theorem traffic_of_write_error {bytes : Bytes} {e : DeviceFault}
    (h : l.write bytes = (.error e, l')) : l'.traffic = l.traffic := by
  unfold write at h
  split at h
  · simp at h
  · simp only [Prod.mk.injEq] at h
    exact h.2 ▸ rfl

theorem traffic_of_flush_ok (h : l.flush = (.ok (), l')) : l'.traffic = l.traffic.flush := by
  unfold flush at h
  split at h
  · simp only [Prod.mk.injEq] at h
    exact h.2 ▸ rfl
  · simp at h

theorem traffic_of_flush_error {e : DeviceFault} (h : l.flush = (.error e, l')) :
    l'.traffic = l.traffic := by
  unfold flush at h
  split at h
  · simp at h
  · simp only [Prod.mk.injEq] at h
    exact h.2 ▸ rfl

/-- A complete send takes all its bytes and closes a group. -/
theorem traffic_of_send_ok {bytes : Bytes} (h : l.send bytes = (.ok (), l')) :
    l'.traffic = (l.traffic.take bytes).flush := by
  fun_induction send bytes l with
  | case1 l => exact traffic_of_flush_ok h
  | case2 => simp at h
  | case3 l b rest k l₁ hw ih =>
    obtain ⟨-, taken⟩ := traffic_of_write_ok hw
    rw [ih h, note_traffic, taken, Traffic.take_take, List.take_succ_cons, List.cons_append,
      List.take_append_drop]
  | case4 l b rest e l₁ hw _ ih => rw [ih h, traffic_of_write_error hw]
  | case5 => simp at h

/-- A send that fails has taken some of the first bytes, and closes no group. -/
theorem traffic_of_send_error {bytes : Bytes} {e : DeviceFault} (h : l.send bytes = (.error e, l')) :
    ∃ part, part <+: bytes ∧ l'.traffic = l.traffic.take part := by
  fun_induction send bytes l with
  | case1 l => exact ⟨[], List.prefix_rfl, traffic_of_flush_error h⟩
  | case2 l b rest l₁ hw =>
    obtain ⟨-, rfl⟩ := Prod.mk.inj h
    exact ⟨[], List.nil_prefix, (traffic_of_write_ok hw).2⟩
  | case3 l b rest k l₁ hw ih =>
    obtain ⟨-, taken⟩ := traffic_of_write_ok hw
    obtain ⟨part, hp, later⟩ := ih h
    refine ⟨b :: (rest.take k ++ part), ?_, ?_⟩
    · rw [List.cons_prefix_cons]
      refine ⟨rfl, ?_⟩
      conv => rhs; rw [← List.take_append_drop k rest]
      exact (List.prefix_append_right_inj _).2 hp
    · rw [later, note_traffic, taken, Traffic.take_take]
      rfl
  | case4 l b rest e' l₁ hw _ ih =>
    obtain ⟨part, hp, later⟩ := ih h
    exact ⟨part, hp, by rw [later, traffic_of_write_error hw]⟩
  | case5 l b rest e' l₁ hw _ =>
    obtain ⟨-, rfl⟩ := Prod.mk.inj h
    exact ⟨[], List.nil_prefix, traffic_of_write_error hw⟩

theorem traffic_of_collect_ok {total need : Nat} {got bytes : Bytes}
    (h : collect total got need l = (.ok bytes, l')) :
    bytes.length = got.length + need ∧ l'.traffic = l.traffic.deliver need := by
  fun_induction collect total got need l with
  | case1 got l =>
    obtain ⟨rfl, rfl⟩ : got.reverse = bytes ∧ l = l' := by simpa using h
    simp
  | case2 => simp at h
  | case3 got need l _ b data l₁ hr ih =>
    obtain ⟨asked, delivered⟩ := traffic_of_read_ok hr
    obtain ⟨len, later⟩ := ih h
    refine ⟨?_, ?_⟩
    · rw [len, List.reverseAux_eq, List.length_append, List.length_reverse]
      omega
    · rw [later, note_traffic, delivered, Traffic.deliver_deliver, Nat.add_sub_cancel' asked]
  | case4 got need l _ e l₁ hr _ ih =>
    obtain ⟨len, later⟩ := ih h
    exact ⟨len, by rw [later, traffic_of_read_error hr]⟩
  | case5 => simp at h

theorem traffic_of_collect_error {total need : Nat} {got : Bytes} {e : DeviceFault}
    (h : collect total got need l = (.error e, l')) :
    ∃ part, part < need ∧ l'.traffic = l.traffic.deliver part := by
  fun_induction collect total got need l with
  | case1 => simp at h
  | case2 got need l hn l₁ hr =>
    obtain ⟨-, rfl⟩ := Prod.mk.inj h
    exact ⟨0, Nat.pos_of_ne_zero hn, (traffic_of_read_ok hr).2⟩
  | case3 got need l _ b data l₁ hr ih =>
    obtain ⟨asked, delivered⟩ := traffic_of_read_ok hr
    obtain ⟨part, less, later⟩ := ih h
    refine ⟨(b :: data).length + part, by omega, ?_⟩
    rw [later, note_traffic, delivered, Traffic.deliver_deliver]
  | case4 got need l _ e' l₁ hr _ ih =>
    obtain ⟨part, less, later⟩ := ih h
    exact ⟨part, less, by rw [later, traffic_of_read_error hr]⟩
  | case5 got need l hn e' l₁ hr _ =>
    obtain ⟨-, rfl⟩ := Prod.mk.inj h
    exact ⟨0, Nat.pos_of_ne_zero hn, traffic_of_read_error hr⟩

/-- A complete receive brings exactly what was asked for. -/
theorem traffic_of_receive_ok {n : Nat} {bytes : Bytes} (h : l.receive n = (.ok bytes, l')) :
    bytes.length = n ∧ l'.traffic = l.traffic.deliver n := by
  simpa using traffic_of_collect_ok h

/-- A receive that fails has brought less than was asked for. -/
theorem traffic_of_receive_error {n : Nat} {e : DeviceFault} (h : l.receive n = (.error e, l')) :
    ∃ part, part < n ∧ l'.traffic = l.traffic.deliver part :=
  traffic_of_collect_error h

end Line

end BootHost
