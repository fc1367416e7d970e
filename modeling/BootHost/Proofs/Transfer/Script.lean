import BootHost.Port.Scripted
import BootHost.Proofs.Transfer.Calls

/-!
# What a receive takes of a script

A scripted port holds the pieces that its reads will bring. A receive that succeeds has used up the pieces
at the front, faults that do not count among them, and leaves the rest of the last one for whoever reads
next (`Piece.Brings`). Pieces that are brought one after the other are brought together, wherever the first
receive stopped (`Brings.append`).
-/

namespace BootHost

namespace Piece

/-- Pieces bring some bytes, with nothing but transient faults between them, and leave the others. What is
left of the last piece stays in front. -/
inductive Brings : Bytes → List Piece → List Piece → Prop where
  | nil {pieces : List Piece} : Brings [] pieces pieces
  | part {bytes tail : Bytes} {pieces : List Piece} : bytes ≠ [] →
      Brings bytes (.data (bytes ++ tail) :: pieces) (putBack tail pieces)
  | whole {bytes later : Bytes} {pieces left : List Piece} : bytes ≠ [] → later ≠ [] →
      Brings later pieces left → Brings (bytes ++ later) (.data bytes :: pieces) left
  | fault {bytes : Bytes} {pieces left : List Piece} {e : DeviceFault} : bytes ≠ [] →
      e.isTransient = true → Brings bytes pieces left → Brings bytes (.fault e :: pieces) left

variable {bytes later : Bytes} {pieces left left' : List Piece}

theorem Brings.eq_of_nil (h : Brings [] pieces left) : left = pieces := by
  generalize hb : ([] : Bytes) = bytes at h
  cases h with
  | nil => rfl
  | part some => exact absurd hb.symm some
  | whole some => simp [some] at hb
  | fault some => exact absurd hb.symm some

/-- What is left of a piece brings what the whole piece would have brought next. -/
theorem Brings.of_putBack (some : bytes ≠ []) {tail : Bytes} (more : later ≠ [])
    (h : Brings later (putBack tail pieces) left) :
    Brings (bytes ++ later) (.data (bytes ++ tail) :: pieces) left := by
  -- an empty rest is not put back, so the next piece is in front; any other rest is read on
  cases tail with
  | nil =>
    rw [List.append_nil]
    exact .whole some more h
  | cons b tail =>
    generalize hp : putBack (b :: tail) pieces = back at h
    cases h with
    | nil => exact absurd rfl more
    | part _ =>
      obtain ⟨hb, rfl⟩ : b :: tail = _ ∧ pieces = _ := by simpa [putBack] using hp
      rw [hb, ← List.append_assoc]
      exact .part (by simp [some])
    | whole _ again h =>
      obtain ⟨hb, rfl⟩ : b :: tail = _ ∧ pieces = _ := by simpa [putBack] using hp
      rw [hb, ← List.append_assoc]
      exact .whole (by simp [some]) again h
    | fault => simp [putBack] at hp

/-- Bytes that are brought one after the other are brought together. -/
theorem Brings.append (h : Brings bytes pieces left) (h' : Brings later left left') :
    Brings (bytes ++ later) pieces left' := by
  by_cases none : later = []
  · subst none
    rw [h'.eq_of_nil, List.append_nil]
    exact h
  · induction h with
    | nil => exact h'
    | part some => exact .of_putBack some none h'
    | whole some _ _ ih =>
      rw [List.append_assoc]
      exact .whole some (by simp [none]) (ih h')
    | fault _ transient _ ih => exact .fault (by simp [none]) transient (ih h')

end Piece

namespace Scripted

variable {bytes : Bytes} {s s' : Scripted} {left : List Piece}

/-- Pieces that bring some bytes are read by the calls of a receive. -/
theorem asks_of_brings {pieces : List Piece} (h : Piece.Brings bytes pieces left) {s : Scripted}
    (hs : s.reads = pieces) : Port.Asks bytes 0 s { s with reads := left } := by
  induction h generalizing s with
  | nil =>
    subst hs
    exact .nil
  | @part bytes tail pieces some =>
    have read : Port.read (bytes.length + ([] : Bytes).length + 0) s =
        (.ok bytes, { s with reads := Piece.putBack tail pieces }) := by
      show Scripted.read _ s = _
      simp [Scripted.read, hs]
    have asks := Port.Asks.brought some read .nil
    rwa [List.append_nil] at asks
  | @whole bytes later pieces left some more _ ih =>
    have read : Port.read (bytes.length + later.length + 0) s = (.ok bytes, { s with reads := pieces }) := by
      show Scripted.read _ s = _
      simp [Scripted.read, hs, List.take_of_length_le, List.drop_of_length_le, Piece.putBack]
    exact .brought some read (ih rfl)
  | @fault bytes pieces left e some transient _ ih =>
    have read : Port.read (bytes.length + 0) s = (.error e, { s with reads := pieces }) := by
      show Scripted.read _ s = _
      simp [Scripted.read, hs]
    exact .again (by simp [some]) read transient (ih rfl)

theorem brings_of_read {n : Nat} (h : Port.read n s = (.ok bytes, s')) (some : bytes ≠ []) :
    Piece.Brings bytes s.reads s'.reads ∧ s' = { s with reads := s'.reads } := by
  change s.read n = _ at h
  unfold read at h
  split at h
  · obtain ⟨none, -⟩ : [] = bytes ∧ _ := by simpa using h
    exact absurd none.symm some
  · simp at h
  · rename_i piece rest hs
    obtain ⟨rfl, rfl⟩ : piece.take n = bytes ∧ _ := by simpa using h
    refine ⟨?_, rfl⟩
    have brings : Piece.Brings (piece.take n) (.data (piece.take n ++ piece.drop n) :: rest)
        (Piece.putBack (piece.drop n) rest) := .part some
    rwa [List.take_append_drop, ← hs] at brings

theorem fault_of_read {n : Nat} {e : DeviceFault} (h : Port.read n s = (.error e, s')) :
    s.reads = .fault e :: s'.reads ∧ s' = { s with reads := s'.reads } := by
  change s.read n = _ at h
  unfold read at h
  split at h
  · simp at h
  · rename_i cause rest hs
    obtain ⟨rfl, rfl⟩ : cause = e ∧ _ := by simpa using h
    exact ⟨hs, rfl⟩
  · simp at h

/-- What the calls of a receive read is brought by the pieces. -/
theorem brings_of_asks (h : Port.Asks bytes 0 s s') :
    Piece.Brings bytes s.reads s'.reads ∧ s' = { s with reads := s'.reads } := by
  generalize hm : 0 = missing at h
  induction h with
  | nil => exact ⟨.nil, rfl⟩
  | brought some hr _ ih =>
    obtain ⟨first, same⟩ := brings_of_read hr some
    obtain ⟨later, same'⟩ := ih hm
    exact ⟨first.append later, by rw [same', same]⟩
  | again some hr transient _ ih =>
    subst hm
    obtain ⟨front, same⟩ := fault_of_read hr
    obtain ⟨later, same'⟩ := ih rfl
    refine ⟨?_, by rw [same', same]⟩
    rw [front]
    exact .fault (List.ne_nil_of_length_pos (Nat.pos_of_ne_zero some)) transient later

end Scripted

namespace Line

variable {σ : Type} [Port σ]

theorem receive_of_brings {l : Line Scripted} {bytes : Bytes} {left : List Piece}
    (h : Piece.Brings bytes l.port.reads left) :
    ∃ l', l.receive bytes.length = (.ok bytes, l') ∧
      l'.wire = ⟨{ l.port with reads := left }, l.traffic.deliver bytes.length⟩ := by
  have calls : l.wire.ReceiveCalls (bytes.length + 0) (.ok bytes) _ :=
    .intro (Scripted.asks_of_brings h rfl) .complete
  obtain ⟨result, wire⟩ := receiveCalls_iff.1 calls
  exact ⟨_, Prod.ext result rfl, wire⟩

theorem brings_of_receive {l l' : Line Scripted} {bytes : Bytes} {count : Nat}
    (h : l.receive count = (.ok bytes, l')) :
    bytes.length = count ∧ Piece.Brings bytes l.port.reads l'.port.reads ∧
      l'.wire = ⟨{ l.port with reads := l'.port.reads }, l.traffic.deliver count⟩ := by
  have calls : l.wire.ReceiveCalls count (.ok bytes) l'.wire := by
    rw [receiveCalls_iff, h]
    exact ⟨rfl, rfl⟩
  generalize hw : l'.wire = w at calls
  cases calls with
  | intro asks ends =>
    cases ends with
    | complete =>
      obtain ⟨brings, same⟩ := Scripted.brings_of_asks asks
      have port : l'.port = _ := congrArg Wire.port hw
      refine ⟨rfl, port ▸ brings, ?_⟩
      rw [port]
      exact congrArg (Wire.mk · (l.traffic.deliver bytes.length)) same

/-- A receive takes exactly what it returns, whatever its calls meet: as many bytes as were asked for,
when they come ahead of the end and of any fault that counts, and nothing without a call when none were
asked for. Otherwise it ends with the first call that brings nothing or fails, and tells how many bytes
had come. A script has then lost the pieces that brought the bytes, and has kept the rest of the last one;
so two receives in a row are one. -/
theorem receive_takes_what_it_returns (count : Nat) (l : Line σ) (k : Line Scripted) :
    (∀ r w, l.wire.ReceiveCalls count r w ↔ (l.receive count).1 = r ∧ (l.receive count).2.wire = w) ∧
    l.receive 0 = (.ok [], l) ∧
    (∀ bytes left, bytes.length = count ∧ Piece.Brings bytes k.port.reads left ↔
      ∃ k', k.receive count = (.ok bytes, k') ∧
        k'.wire = ⟨{ k.port with reads := left }, k.traffic.deliver count⟩) ∧
    ∀ more bytes later k₁ k₂, k.receive count = (.ok bytes, k₁) → k₁.receive more = (.ok later, k₂) →
      ∃ k₃, k.receive (count + more) = (.ok (bytes ++ later), k₃) ∧ k₃.wire = k₂.wire := by
  refine ⟨fun r w => receiveCalls_iff, ?_, ?_, ?_⟩
  · rw [receive, collect, if_pos rfl, List.reverse_nil]
  · intro bytes left
    constructor
    · rintro ⟨rfl, brings⟩
      exact receive_of_brings brings
    · rintro ⟨k', received, wire⟩
      obtain ⟨length, brings, -⟩ := brings_of_receive received
      rw [show k'.port.reads = left from congrArg (fun w => w.port.reads) wire] at brings
      exact ⟨length, brings⟩
  · intro more bytes later k₁ k₂ first second
    obtain ⟨rfl, brings, wire⟩ := brings_of_receive first
    obtain ⟨rfl, brings', wire'⟩ := brings_of_receive second
    obtain ⟨k₃, together, wire''⟩ := receive_of_brings (brings.append brings')
    rw [List.length_append] at together wire''
    refine ⟨k₃, together, ?_⟩
    have port : k₁.port = _ := congrArg Wire.port wire
    have traffic : k₁.traffic = _ := congrArg Wire.traffic wire
    rw [wire'', wire', port, traffic, Traffic.deliver_deliver]

/-- A line whose pieces are cut where no receive ends, with an interruption between them. -/
def cutInPieces : Line Scripted :=
  { port := { reads := [.data [1, 2], .fault (.plain .interrupted), .data [3, 4, 5]] } }

/-- One byte and then three are four, and what is left of the last piece stays for the next receive. -/
theorem receive_takes_what_it_returns_of_cut_line :
    ∃ k₁ k₂ k₃, cutInPieces.receive 1 = (.ok [1], k₁) ∧ k₁.receive 3 = (.ok [2, 3, 4], k₂) ∧
      cutInPieces.receive 4 = (.ok [1, 2, 3, 4], k₃) ∧ k₃.wire = k₂.wire ∧ k₂.port.reads = [.data [5]] := by
  let behind : List Piece := [.fault (.plain .interrupted), .data [3, 4, 5]]
  have one : Piece.Brings [1] cutInPieces.port.reads (.data [2] :: behind) :=
    .part (List.cons_ne_nil 1 [])
  have two : Piece.Brings [3, 4] behind [.data [5]] :=
    .fault (List.cons_ne_nil 3 [4]) rfl (.part (List.cons_ne_nil 3 [4]))
  have three : Piece.Brings ([2] ++ [3, 4]) (.data [2] :: behind) [.data [5]] :=
    .whole (List.cons_ne_nil 2 []) (List.cons_ne_nil 3 [4]) two
  obtain ⟨-, -, brought, in_a_row⟩ := receive_takes_what_it_returns 1 cutInPieces cutInPieces
  obtain ⟨k₁, first, wire⟩ := (brought [1] _).1 ⟨rfl, one⟩
  have reads : k₁.port.reads = .data [2] :: behind := congrArg (fun w => w.port.reads) wire
  rw [← reads] at three
  obtain ⟨k₂, second, wire'⟩ := receive_of_brings three
  obtain ⟨k₃, together, same⟩ := in_a_row 3 [1] [2, 3, 4] k₁ k₂ first second
  exact ⟨k₁, k₂, k₃, first, second, together, same, congrArg (fun w => w.port.reads) wire'⟩

end Line

end BootHost
