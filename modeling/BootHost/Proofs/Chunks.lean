import BootHost.Proofs.Session.Cursor

/-!
# Rounds of a chunked write

A chunked write goes in rounds: each gathers a chunk, finds its place, sends it and waits for the
acknowledgment. `Rounds` are rounds that were acknowledged, and what they leave behind is said once
(`Rounds.leaves`): the frames of the chunks went out one right behind the other, one answer came for
each, and the cursor stands behind the last chunk. The round that is not one of them ends the write, in
one of four ways (`Ending`). So a chunked write is some rounds and an ending, and nothing else
(`writeChunks_eq_iff`).
-/

namespace BootHost

open Memory

/-- The bytes that a piece brings. -/
def Piece.bytes : Piece → Bytes
  | .data bytes => bytes
  | .fault _ => []

namespace Memory.Source

/-- The bytes that a source still holds. -/
def bytes (source : Source) : Bytes := source.flatMap Piece.bytes

theorem bytes_data (front : Bytes) (source : Source) : bytes (.data front :: source) = front ++ bytes source :=
  List.flatMap_cons

theorem bytes_fault (e : DeviceFault) (source : Source) : bytes (.fault e :: source) = bytes source :=
  List.flatMap_cons

/-- What was gathered, and nothing else, is missing from the source. -/
theorem bytes_of_gather {want : Nat} {got chunk : Bytes} {source rest : Source}
    (h : gather want got source = (.ok chunk, rest)) : got.reverse ++ bytes source = chunk ++ bytes rest := by
  fun_induction gather want got source with
  | case1 | case2 =>
    obtain ⟨rfl, rfl⟩ : _ ∧ _ := by simpa using h
    rfl
  | case3 want got e rest' he ih => rw [bytes_fault, ih h]
  | case4 => simp at h
  | case5 want got rest' =>
    obtain ⟨rfl, rfl⟩ : _ ∧ _ := by simpa using h
    rw [bytes_data, List.nil_append]
  | case6 want got b data rest' hd ih =>
    rw [← ih h, bytes_data]
    simp [List.reverseAux_eq]
  | case7 want got b data rest' c back hd =>
    obtain ⟨rfl, rfl⟩ : _ ∧ _ := by simpa using h
    have whole : data.take want ++ (data.drop want ++ bytes rest') = data ++ bytes rest' := by
      rw [← List.append_assoc, List.take_append_drop]
    rw [bytes_data, bytes_data, ← hd]
    simp [whole]

/-- A source that fails has lost what was gathered, which was no full chunk. -/
theorem bytes_of_gather_error {want : Nat} {got : Bytes} {source rest : Source} {e : DeviceFault}
    (h : gather want got source = (.error e, rest)) :
    ∃ lost, lost.length < want ∧ bytes source = lost ++ bytes rest := by
  fun_induction gather want got source with
  | case1 | case2 | case5 | case7 => simp at h
  | case3 want got e' rest' he ih =>
    obtain ⟨lost, few, cut⟩ := ih h
    exact ⟨lost, few, by rw [bytes_fault, cut]⟩
  | case4 want got e' rest' he =>
    obtain ⟨-, rfl⟩ : _ ∧ rest' = rest := by simpa using h
    exact ⟨[], Nat.succ_pos want, bytes_fault _ _⟩
  | case6 want got b data rest' hd ih =>
    obtain ⟨lost, few, cut⟩ := ih h
    have short : data.length ≤ want := List.drop_eq_nil_iff.1 hd
    refine ⟨b :: data ++ lost, ?_, ?_⟩
    · rw [List.length_append, List.length_cons]
      omega
    · rw [bytes_data, cut, List.append_assoc]

theorem bytes_of_fill {size : Nat} {chunk : Bytes} {source rest : Source}
    (h : source.fill size = (.ok chunk, rest)) : bytes source = chunk ++ bytes rest :=
  bytes_of_gather h

end Memory.Source

/-- The bytes of some payloads, one right behind the other. -/
def Payload.join (chunks : List Payload) : Bytes := chunks.flatMap Payload.bytes

@[simp] theorem Payload.join_nil : join [] = [] := rfl

@[simp] theorem Payload.join_cons (p : Payload) (chunks : List Payload) :
    join (p :: chunks) = p.bytes ++ join chunks := List.flatMap_cons

@[simp] theorem Payload.join_append (chunks chunks' : List Payload) :
    join (chunks ++ chunks') = join chunks ++ join chunks' := List.flatMap_append

/-- The writes of some payloads from a position on, one right behind the other. -/
def Command.inRow (position : Nat) : List Payload → List Command
  | [] => []
  | p :: chunks => .write (UInt64.ofNat position) p :: inRow (position + p.bytes.length) chunks

@[simp] theorem Command.length_inRow (position : Nat) (chunks : List Payload) :
    (inRow position chunks).length = chunks.length := by
  induction chunks generalizing position with
  | nil => rfl
  | cons p chunks ih => rw [inRow, List.length_cons, ih, List.length_cons]

theorem Command.inRow_append (position : Nat) (chunks chunks' : List Payload) :
    inRow position (chunks ++ chunks') =
      inRow position chunks ++ inRow (position + (Payload.join chunks).length) chunks' := by
  induction chunks generalizing position with
  | nil => rfl
  | cons p chunks ih =>
    rw [List.cons_append, inRow, ih, inRow, List.cons_append, Payload.join_cons, List.length_append,
      Nat.add_assoc]

/-- What the writes of some payloads from a position on come to. -/
def Command.rowStream (position : Nat) (chunks : List Payload) : Bytes :=
  (inRow position chunks).flatMap encode

theorem Command.rowStream_append (position : Nat) (chunks chunks' : List Payload) :
    rowStream position (chunks ++ chunks') =
      rowStream position chunks ++ rowStream (position + (Payload.join chunks).length) chunks' := by
  rw [rowStream, inRow_append, List.flatMap_append, rowStream, rowStream]

theorem Command.rowStream_singleton (position : Nat) (p : Payload) :
    rowStream position [p] = (write (UInt64.ofNat position) p).encode := by
  simp [rowStream, inRow]

/-- Counts some more chunks. -/
def Memory.Written.addAll (chunks : List Payload) (w : Written) : Written :=
  { w with chunks := w.chunks + chunks.length, bytes := w.bytes + (Payload.join chunks).length }

theorem Memory.Written.addAll_cons (p : Payload) (chunks : List Payload) (w : Written) :
    w.addAll (p :: chunks) = (w.add p.bytes.length).addAll chunks := by
  simp [addAll, add, Nat.add_assoc, Nat.add_comm 1]

/-- Since some point these bytes were taken, and so many were delivered. -/
structure Traffic.Adds (bytes : Bytes) (count : Nat) (t t' : Traffic) : Prop where
  taken : t'.taken = t.taken ++ bytes
  delivered : t'.delivered = t.delivered + count

namespace Traffic.Adds

theorem nothing (t : Traffic) : Adds [] 0 t t := ⟨(List.append_nil _).symm, rfl⟩

theorem append {bytes bytes' : Bytes} {count count' : Nat} {t t' t'' : Traffic} (h : Adds bytes count t t')
    (h' : Adds bytes' count' t' t'') : Adds (bytes ++ bytes') (count + count') t t'' where
  taken := by rw [h'.taken, h.taken, List.append_assoc]
  delivered := by rw [h'.delivered, h.delivered, Nat.add_assoc]

/-- Bytes that were pushed out, with an answer to them. -/
theorem exchange (bytes : Bytes) (count : Nat) (t : Traffic) :
    Adds bytes count t ((t.take bytes).flush.deliver count) := by
  constructor <;> simp

/-- Bytes that were not pushed out. -/
theorem cut (bytes : Bytes) (t : Traffic) : Adds bytes 0 t (t.take bytes) := by
  constructor <;> simp

end Traffic.Adds

namespace Memory.Access

variable {σ : Type} {a a' b : Access σ} {source left rest : Source} {chunks : List Payload} {p : Payload}
  {address : UInt64} {next : Option UInt64} {w : Written} {e : Fault}

/-- A chunk that was gathered fits into one command. -/
theorem countable_of_fill {size : ChunkSize} {chunk : Bytes} (hf : source.fill size.size = (.ok chunk, rest)) :
    chunk.length < UInt32.size :=
  Nat.lt_of_le_of_lt (Nat.le_trans (Source.length_le_of_fill hf) size.le) (by decide)

/-- What acknowledged chunks leave behind on the line and at the cursor. -/
structure Leaves (chunks : List Payload) (a b : Access σ) : Prop where
  traffic : Traffic.Adds (Command.rowStream (positionOf a.cursor) chunks) chunks.length
    a.conn.line.traffic b.conn.line.traffic
  position : positionOf b.cursor = positionOf a.cursor + (Payload.join chunks).length
  chunkSize : b.chunkSize = a.chunkSize

theorem Leaves.refl (a : Access σ) : Leaves [] a a := ⟨.nothing _, rfl, rfl⟩

theorem Leaves.append {chunks' : List Payload} (h : Leaves chunks a a') (h' : Leaves chunks' a' b) :
    Leaves (chunks ++ chunks') a b where
  traffic := by
    have traffic := h.traffic.append h'.traffic
    rwa [h.position, ← Command.rowStream_append, ← List.length_append] at traffic
  position := by rw [h'.position, h.position, Payload.join_append, List.length_append, Nat.add_assoc]
  chunkSize := by rw [h'.chunkSize, h.chunkSize]

theorem Leaves.cursor (h : Leaves chunks a b) :
    b.cursor = cursorAt (positionOf a.cursor + (Payload.join chunks).length) := by
  rw [← h.position, cursorAt_positionOf]

theorem Leaves.fits (h : Leaves chunks a b) :
    positionOf a.cursor + (Payload.join chunks).length ≤ addressCount := by
  rw [← h.position]
  exact positionOf_le _

/-- A chunk is sent to the address at the cursor. -/
theorem address_of_place {length : Nat} (hp : a.place length = .ok (address, next)) :
    UInt64.ofNat (positionOf a.cursor) = address := by
  rw [(cursor_of_place hp).1, positionOf, UInt64.ofNat_toNat]

variable [Port σ]

/-- Rounds of a chunked write that were all acknowledged. -/
inductive Rounds : List Payload → Source → Access σ → Source → Access σ → Prop where
  | nil {source : Source} {a : Access σ} : Rounds [] source a source a
  | cons {p : Payload} {chunks : List Payload} {source left rest : Source} {a a' b : Access σ}
      {address : UInt64} {next : Option UInt64} :
      source.fill a.chunkSize.size = (.ok p.bytes, left) → p.bytes ≠ [] →
      a.place p.bytes.length = .ok (address, next) →
      (a.note (.writing address p.bytes.length)).writeBlock address p.bytes = (.ok (), a') →
      Rounds chunks left (a'.passed next p.bytes.length) rest b → Rounds (p :: chunks) source a rest b

/-- How a chunked write ends, when `w` is what was written before. -/
inductive Ending (w : Written) (source : Source) (a : Access σ) :
    Except Fault Written → Source → Access σ → Prop where
  /-- The source has nothing more to say. -/
  | done {rest : Source} : source.fill a.chunkSize.size = (.ok [], rest) →
      Ending w source a (.ok w) rest (a.note .done)
  /-- The source fails. -/
  | unread {rest : Source} {e : DeviceFault} : source.fill a.chunkSize.size = (.error e, rest) →
      Ending w source a (.error (.input e)) rest a
  /-- The next chunk has no place. -/
  | misplaced {rest : Source} {p : Payload} {e : Fault} :
      source.fill a.chunkSize.size = (.ok p.bytes, rest) → p.bytes ≠ [] →
      a.place p.bytes.length = .error e → Ending w source a (.error (stopped w e)) rest a
  /-- The next chunk is not acknowledged. -/
  | broken {rest : Source} {p : Payload} {address : UInt64} {next : Option UInt64} {e : Fault} {a' : Access σ} :
      source.fill a.chunkSize.size = (.ok p.bytes, rest) → p.bytes ≠ [] →
      a.place p.bytes.length = .ok (address, next) →
      (a.note (.writing address p.bytes.length)).writeBlock address p.bytes = (.error e, a') →
      Ending w source a (.error e) rest a'

/-- Behind acknowledged rounds a chunked write goes on as it began. -/
theorem Rounds.writeChunks_eq (h : Rounds chunks source a rest b) (w : Written) :
    a.writeChunks w source = b.writeChunks (w.addAll chunks) rest := by
  induction h generalizing w with
  | nil => rfl
  | @cons p chunks source left rest a a' b address next hf nonempty hp hw _ ih =>
    obtain ⟨c, bytes, hb⟩ := List.exists_cons_of_ne_nil nonempty
    rw [Written.addAll_cons, ← ih]
    rw [hb] at hf hp hw ⊢
    rw [writeChunks_of_cons hf, hp]
    dsimp only
    rw [hw]

/-- An ending is what it says. -/
theorem Ending.writeChunks_eq {r : Except Fault Written} (h : Ending w source a r rest a') :
    a.writeChunks w source = (r, rest, a') := by
  cases h with
  | done hf => exact writeChunks_of_nil hf
  | unread hf => exact writeChunks_of_error hf
  | @misplaced _ p e hf nonempty hp =>
    obtain ⟨c, bytes, hb⟩ := List.exists_cons_of_ne_nil nonempty
    rw [hb] at hf hp
    rw [writeChunks_of_cons hf, hp]
  | @broken _ p address next e _ hf nonempty hp hw =>
    obtain ⟨c, bytes, hb⟩ := List.exists_cons_of_ne_nil nonempty
    rw [hb] at hf hp hw
    rw [writeChunks_of_cons hf, hp]
    dsimp only
    rw [hw]

/-- Every chunked write comes to an end behind some rounds. -/
theorem writeChunks_rounds (w : Written) (source : Source) (a : Access σ) :
    ∃ chunks left b, Rounds chunks source a left b ∧
      Ending (w.addAll chunks) left b (a.writeChunks w source).1 (a.writeChunks w source).2.1
        (a.writeChunks w source).2.2 := by
  fun_induction writeChunks w source a with
  | case1 w source a e rest hf => exact ⟨[], source, a, .nil, .unread hf⟩
  | case2 w source a rest hf => exact ⟨[], source, a, .nil, .done hf⟩
  | case3 w source a c bytes rest hf e hp =>
    let p : Payload := ⟨c :: bytes, countable_of_fill hf⟩
    exact ⟨[], source, a, .nil, .misplaced (p := p) hf (List.cons_ne_nil c bytes) hp⟩
  | case4 w source a c bytes rest hf address next hp e a' hw =>
    let p : Payload := ⟨c :: bytes, countable_of_fill hf⟩
    exact ⟨[], source, a, .nil, .broken (p := p) hf (List.cons_ne_nil c bytes) hp hw⟩
  | case5 w source a c bytes rest hf address next hp a' hw ih =>
    let p : Payload := ⟨c :: bytes, countable_of_fill hf⟩
    obtain ⟨chunks, left, b, rounds, ending⟩ := ih
    refine ⟨p :: chunks, left, b, .cons hf (List.cons_ne_nil c bytes) hp hw rounds, ?_⟩
    rwa [Written.addAll_cons]

/-- A chunked write is some rounds and an ending. -/
theorem writeChunks_eq_iff {r : Except Fault Written} :
    a.writeChunks w source = (r, rest, a') ↔
      ∃ chunks left b, Rounds chunks source a left b ∧ Ending (w.addAll chunks) left b r rest a' := by
  constructor
  · intro h
    have ends := writeChunks_rounds w source a
    rwa [h] at ends
  · rintro ⟨chunks, left, b, rounds, ending⟩
    rw [rounds.writeChunks_eq w, ending.writeChunks_eq]

/-- One acknowledged chunk. -/
theorem leaves_of_writeBlock (hp : a.place p.bytes.length = .ok (address, next))
    (hw : (a.note (.writing address p.bytes.length)).writeBlock address p.bytes = (.ok (), a')) :
    Leaves [p] a (a'.passed next p.bytes.length) := by
  obtain ⟨here, fits, rfl⟩ := cursor_of_place hp
  constructor
  · cases (writeBlock_hands true hw).carried with
    | answered answers nothing =>
      cases nothing
      have traffic := Traffic.Adds.exchange (Command.write address p).encode 1 a.conn.line.traffic
      rw [Command.rowStream_singleton, address_of_place hp]
      have went : a'.conn.line.traffic = _ := answers.traffic
      show Traffic.Adds _ _ _ a'.conn.line.traffic
      rwa [went]
  · show positionOf (cursorAt _) = _
    rw [positionOf_cursorAt fits, here]
    simp [positionOf]
  · have block := (writeBlock_works address p (a.note (.writing address p.bytes.length))).chunkSize
    rwa [hw] at block

/-- Acknowledged rounds have sent their chunks, one right behind the other. -/
theorem Rounds.leaves (h : Rounds chunks source a rest b) : Leaves chunks a b := by
  induction h with
  | nil => exact .refl _
  | cons hf nonempty hp hw _ ih => exact (leaves_of_writeBlock hp hw).append ih

/-- A round takes a byte at least, so there are no more chunks than bytes. -/
theorem Rounds.length_le (h : Rounds chunks source a rest b) :
    chunks.length ≤ (Payload.join chunks).length := by
  induction h with
  | nil => exact Nat.zero_le _
  | cons _ nonempty _ _ _ ih =>
    have some := List.length_pos_iff.2 nonempty
    rw [List.length_cons, Payload.join_cons, List.length_append]
    omega

/-- The chunks, and nothing else, are missing from the source. -/
theorem Rounds.bytes (h : Rounds chunks source a rest b) :
    source.bytes = Payload.join chunks ++ rest.bytes := by
  induction h with
  | nil => rfl
  | cons hf nonempty hp hw _ ih =>
    rw [Source.bytes_of_fill hf, ih, Payload.join_cons, List.append_assoc]

end Memory.Access

end BootHost
