import BootHost.Port.Scripted
import BootHost.Proofs.Spelling
import BootHost.Proofs.Tape

/-!
# Ports that play a tape

A queued port plays the tape of its queue and its room, whatever its limits and stalls are. A
scripted port plays the tape that its reads spell, as long as its script only cuts the two streams
into pieces and delays them (`Scripted.Fragments`).
-/

namespace BootHost

namespace Queued

theorem takes_ne_nil {q : Queued} {bytes : Bytes} (hb : bytes ≠ []) (hr : q.room ≠ some 0) :
    q.takes bytes ≠ [] := by
  obtain ⟨b, rest, rfl⟩ := List.exists_cons_of_ne_nil hb
  have limited : upTo (portion q.writeLimit) (b :: rest) ≠ [] := by
    cases q.writeLimit <;> simp [portion, upTo]
  unfold takes
  cases hq : q.room with
  | none => simpa [upTo] using limited
  | some room =>
    have left : room ≠ 0 := by
      rintro rfl
      exact hr hq
    simpa [upTo, left] using limited

instance : Taped Queued where
  Plays incoming room q := q.incoming = incoming ∧ q.room = room
  read_plays {incoming room q n} h hn := by
    obtain ⟨rfl, rfl⟩ := h
    cases hs : q.stalls with
    | succ stalls =>
      exact Or.inl ⟨nothingYet, { q with stalls := stalls }, read_of_stalls hs, by decide, rfl, rfl⟩
    | zero =>
      refine Or.inr ⟨q.incoming.take (q.askFor n), q.incoming.drop (q.askFor n),
        { q with incoming := q.incoming.drop (q.askFor n) }, read_of_no_stalls hs,
        (List.take_append_drop ..).symm, ?_, rfl, rfl⟩
      intro nothing
      have asks : q.askFor n ≠ 0 := askFor_ne_zero (Nat.ne_of_gt hn)
      exact (List.take_eq_nil_iff.1 nothing).resolve_left asks
  write_plays {incoming bytes room q} h hb := by
    obtain ⟨rfl, rfl⟩ := h
    by_cases hr : q.room = some 0
    · exact Or.inr (Or.inl ⟨hr, q, write_of_no_room hr, rfl, rfl⟩)
    · have some : (q.takes bytes).length ≠ 0 := by
        intro none
        apply takes_ne_nil hb hr
        exact List.length_eq_zero_iff.1 none
      obtain ⟨k, hk⟩ := Nat.exists_eq_succ_of_ne_zero some
      refine Or.inr (Or.inr ⟨k, { q with room := q.room.map (· - (k + 1)) },
        by rw [write_of_room hr, hk], ?_, rfl, rfl⟩)
      cases hq : q.room with
      | none => rfl
      | some room =>
        have fits : (q.takes bytes).length ≤ room := by
          simp only [takes, hq, upTo]
          exact List.length_take_le ..
        rw [hk] at fits
        exact decide_eq_true fits
  flush_plays {incoming room q} h := ⟨q, rfl, h⟩

theorem plays (q : Queued) : Taped.Plays q.incoming q.room q := ⟨rfl, rfl⟩

end Queued

/-- A write that takes something, or is to be made again. -/
def Acceptance.IsSmooth : Acceptance → Prop
  | .upTo count => 0 < count
  | .fault e => e.isTransient = true

/-- The script only cuts the incoming bytes, and what is written, into pieces, and delays them. -/
structure Scripted.Fragments (s : Scripted) (incoming : Bytes) : Prop where
  reads : Piece.Spells DeviceFault.isTransient s.reads incoming
  writes : ∀ a ∈ s.writes, a.IsSmooth
  flushes : ∀ answer ∈ s.flushes, answer = .ok ()

namespace Scripted

theorem read_of_fragments {s : Scripted} {incoming : Bytes} {n : Nat} (h : s.Fragments incoming)
    (hn : 0 < n) :
    (∃ e s', s.read n = (.error e, s') ∧ e.isTransient = true ∧ s'.Fragments incoming) ∨
    ∃ bytes back s', s.read n = (.ok bytes, s') ∧ incoming = bytes ++ back ∧
      (bytes = [] → incoming = []) ∧ s'.Fragments back := by
  obtain ⟨reads, writes, flushes⟩ := h
  obtain ⟨pieces, ws, fs⟩ := s
  cases reads with
  | nil => exact Or.inr ⟨[], [], ⟨[], ws, fs⟩, rfl, rfl, fun _ => rfl, .nil, writes, flushes⟩
  | close =>
    exact Or.inr ⟨[], [], ⟨[], ws, fs⟩, by simp [read, Piece.putBack], rfl, fun _ => rfl, .nil,
      writes, flushes⟩
  | @fault e _ rest he spells =>
    exact Or.inl ⟨e, ⟨rest, ws, fs⟩, rfl, he, spells, writes, flushes⟩
  | @data b bytes content rest spells =>
    obtain ⟨n, rfl⟩ := Nat.exists_eq_succ_of_ne_zero (Nat.ne_of_gt hn)
    refine Or.inr ⟨b :: bytes.take n, bytes.drop n ++ content, ⟨Piece.putBack (bytes.drop n) rest, ws, fs⟩,
      rfl, ?_, by simp, ?_, writes, flushes⟩
    · rw [List.cons_append, ← List.append_assoc, List.take_append_drop]
    · cases hd : bytes.drop n with
      | nil => exact spells
      | cons c back => exact .data spells

theorem write_of_fragments {s : Scripted} {incoming bytes : Bytes} (h : s.Fragments incoming)
    (hb : bytes ≠ []) :
    (∃ e s', s.write bytes = (.error e, s') ∧ e.isTransient = true ∧ s'.Fragments incoming) ∨
    ∃ k s', s.write bytes = (.ok (k + 1), s') ∧ s'.Fragments incoming := by
  obtain ⟨reads, writes, flushes⟩ := h
  obtain ⟨b, rest, rfl⟩ := List.exists_cons_of_ne_nil hb
  obtain ⟨pieces, ws, fs⟩ := s
  cases ws with
  | nil => exact Or.inr ⟨rest.length, ⟨pieces, [], fs⟩, rfl, reads, writes, flushes⟩
  | cons a later =>
    have smooth := writes a List.mem_cons_self
    have writes' : ∀ a ∈ later, a.IsSmooth := by
      intro a ha
      exact writes a (List.mem_cons_of_mem _ ha)
    cases a with
    | upTo count =>
      obtain ⟨count, rfl⟩ := Nat.exists_eq_succ_of_ne_zero (Nat.pos_iff_ne_zero.1 smooth)
      exact Or.inr ⟨(rest.take count).length, ⟨pieces, later, fs⟩, rfl, reads, writes', flushes⟩
    | fault e => exact Or.inl ⟨e, ⟨pieces, later, fs⟩, rfl, smooth, reads, writes', flushes⟩

theorem flush_of_fragments {s : Scripted} {incoming : Bytes} (h : s.Fragments incoming) :
    ∃ s', s.flush = (.ok (), s') ∧ s'.Fragments incoming := by
  obtain ⟨reads, writes, flushes⟩ := h
  obtain ⟨pieces, ws, fs⟩ := s
  cases fs with
  | nil => exact ⟨⟨pieces, ws, []⟩, rfl, reads, writes, flushes⟩
  | cons answer later =>
    obtain rfl : answer = .ok () := flushes answer List.mem_cons_self
    have flushes' : ∀ a ∈ later, a = .ok () := by
      intro a ha
      exact flushes a (List.mem_cons_of_mem _ ha)
    exact ⟨⟨pieces, ws, later⟩, rfl, reads, writes, flushes'⟩

instance : Taped Scripted where
  Plays incoming room s := room = none ∧ s.Fragments incoming
  read_plays {incoming room s n} h hn := by
    rcases read_of_fragments h.2 hn with
      ⟨e, s', hr, again, fragments⟩ | ⟨bytes, back, s', hr, cut, last, fragments⟩
    · exact Or.inl ⟨e, s', hr, again, h.1, fragments⟩
    · exact Or.inr ⟨bytes, back, s', hr, cut, last, h.1, fragments⟩
  write_plays {incoming bytes room s} h hb := by
    obtain ⟨rfl, fragments⟩ := h
    rcases write_of_fragments fragments hb with ⟨e, s', hw, again, fragments⟩ | ⟨k, s', hw, fragments⟩
    · exact Or.inl ⟨e, s', hw, again, rfl, fragments⟩
    · exact Or.inr (Or.inr ⟨k, s', hw, rfl, rfl, fragments⟩)
  flush_plays {incoming room s} h := by
    obtain ⟨s', hf, fragments⟩ := flush_of_fragments h.2
    exact ⟨s', hf, h.1, fragments⟩

theorem Fragments.plays {s : Scripted} {incoming : Bytes} (h : s.Fragments incoming) :
    Taped.Plays incoming none s := ⟨rfl, h⟩

end Scripted

end BootHost
