import BootHost.Memory.Access
import BootHost.Proofs.Conversation
import BootHost.Proofs.Plan
import BootHost.Proofs.Spelling

/-!
# An operation is a conversation

What the operations of an access say and hear over any port. Each of them works through the plan of
its action, and a request goes on behind it exactly when it got through: when it did what was asked,
or planned nothing because it did not fit. The file is the exception, since its source may fail
half-way; then there still is a conversation, and the plan of the whole file is known only of a file
that holds a content.
-/

namespace BootHost

open Memory

/-- A request goes on behind an operation that succeeded, or was refused before anything was sent. -/
def goesOn {α : Type} : Except Fault α → Bool
  | .ok _ => true
  | .error e => e.isUsage

namespace Memory.Access

variable {σ α : Type}

/-- The wire of an access. -/
def wire (a : Access σ) : Wire σ := a.conn.line.wire

/-- Two accesses that differ in nothing but their notes and their progress. -/
structure Same (a b : Access σ) : Prop where
  wire : a.wire = b.wire
  cursor : a.cursor = b.cursor
  chunkSize : a.chunkSize = b.chunkSize

theorem Same.refl (a : Access σ) : Same a a := ⟨rfl, rfl, rfl⟩

theorem Same.symm {a b : Access σ} (h : Same a b) : Same b a := ⟨h.wire.symm, h.cursor.symm, h.chunkSize.symm⟩

theorem Same.trans {a b c : Access σ} (h : Same a b) (h' : Same b c) : Same a c :=
  ⟨h.wire.trans h'.wire, h.cursor.trans h'.cursor, h.chunkSize.trans h'.chunkSize⟩

theorem same_note (n : Note) (a : Access σ) : Same a (a.note n) := ⟨rfl, rfl, rfl⟩

theorem same_counting (length : Option Nat) (a : Access σ) : Same a (a.counting length) := ⟨rfl, rfl, rfl⟩

/-- Where an operation of some bytes takes place. -/
theorem place_eq (length : Nat) (a : Access σ) :
    a.place length =
      match a.cursor with
      | none => .error .endOfAddressSpace
      | some address =>
        if address.toNat + length ≤ addressCount then .ok (address, cursorAt (address.toNat + length))
        else .error (.addressOverflow address length) := by
  unfold place here
  cases a.cursor with
  | none => rfl
  | some address =>
    dsimp only
    rw [advance_eq]
    by_cases fits : address.toNat + length ≤ addressCount
    · simp only [if_pos fits]
    · simp only [if_neg fits]

/-- Bytes that fit behind a position have their place there. -/
theorem place_of_fits {position length : Nat} {a : Access σ} (hc : a.cursor = cursorAt position) (some : 0 < length)
    (fits : position + length ≤ addressCount) :
    a.place length = .ok (UInt64.ofNat position, cursorAt (position + length)) := by
  have below : position < addressCount := by omega
  have same : (UInt64.ofNat position).toNat = position := UInt64.toNat_ofNat_of_lt below
  rw [place_eq, hc, cursorAt, if_pos below]
  simp only [same]
  rw [if_pos fits]

/-- Behind the last address nothing has a place. -/
theorem place_of_none {a : Access σ} (hc : a.cursor = none) (length : Nat) :
    a.place length = .error .endOfAddressSpace := by
  rw [place_eq, hc]

/-- What has no place is refused as a usage fault. -/
theorem isUsage_of_place {length : Nat} {a : Access σ} {e : Fault} (h : a.place length = .error e) :
    e.isUsage = true := by
  rw [place_eq] at h
  split at h
  · exact Except.error.inj h ▸ rfl
  · split at h
    · simp at h
    · exact Except.error.inj h ▸ rfl

/-- Bytes that run over the top of the memory have no place. -/
theorem place_of_overflow {address : UInt64} {length : Nat} {a : Access σ} (hc : a.cursor = some address)
    (beyond : ¬ address.toNat + length ≤ addressCount) :
    a.place length = .error (.addressOverflow address length) := by
  rw [place_eq, hc]
  exact if_neg beyond

/-- The first block of a content that fits has its place. -/
theorem place_of_block {position : Nat} {content : Bytes} {b : UInt8} {bytes : Bytes} {a : Access σ}
    (hc : a.cursor = cursorAt position) (fits : position + content.length ≤ addressCount)
    (chunk : b :: bytes = (a.chunkSize.block content 0).bytes) :
    a.place (b :: bytes).length =
      .ok (UInt64.ofNat position, cursorAt (position + (content.take a.chunkSize.size).length)) := by
  rw [ChunkSize.block_zero] at chunk
  have less : (content.take a.chunkSize.size).length ≤ content.length := List.length_take_le' ..
  have nonempty : 0 < (content.take a.chunkSize.size).length := by
    rw [← chunk]
    exact Nat.succ_pos _
  rw [chunk]
  exact place_of_fits hc nonempty (by omega)

variable [Port σ]

/-- A call works through a plan and goes on only when it is through. It brings what the reads of
the plan bring, and leaves the cursor at `next`. -/
structure Works (plan : List Command) (brings : List (UInt64 × Bytes)) (next : Option UInt64)
    (a : Access σ) (x : Except Fault α × Access σ) : Prop where
  conversation : ∃ answers, Conversation plan answers (goesOn x.1) a.wire x.2.wire ∧
    Command.readings plan answers = brings
  cursor : goesOn x.1 = true → x.2.cursor = next
  chunkSize : x.2.chunkSize = a.chunkSize

/-- A call works through some plan, and what it brings is what the reads of the plan bring. -/
def Converses (through : Bool) (brings : List (UInt64 × Bytes)) (a a' : Access σ) : Prop :=
  ∃ plan answers complete, Conversation plan answers complete a.wire a'.wire ∧
    Command.readings plan answers = brings ∧ (through = true → complete = true)

variable {a a' : Access σ} {plan : List Command} {brings : List (UInt64 × Bytes)}
  {next : Option UInt64}

theorem Works.converses {x : Except Fault α × Access σ} (h : Works plan brings next a x) :
    Converses (goesOn x.1) brings a x.2 := by
  obtain ⟨answers, conversation, reads⟩ := h.conversation
  exact ⟨plan, answers, goesOn x.1, conversation, reads, id⟩

/-- A usage fault before anything was sent. -/
theorem Works.of_usage {e : Fault} (he : e.isUsage = true) (hn : a.cursor = next) :
    Works [] [] next a ((.error e : Except Fault α), a) where
  conversation := by
    refine ⟨[], ?_, rfl⟩
    rw [show goesOn (.error e : Except Fault α) = true from he]
    exact .done
  cursor _ := hn
  chunkSize := rfl

/-- The same call on the same access works through the same plan. -/
theorem Works.congr {β : Type} {x : Except Fault α × Access σ} {y : Except Fault β × Access σ}
    (h : Works plan brings next a' x) (ha : Same a a') (hr : goesOn y.1 = goesOn x.1)
    (hy : Same y.2 x.2) : Works plan brings next a y where
  conversation := by
    rw [hr, ha.wire, hy.wire]
    exact h.conversation
  cursor goes := by
    rw [hy.cursor]
    exact h.cursor (hr ▸ goes)
  chunkSize := by
    rw [hy.chunkSize, ha.chunkSize]
    exact h.chunkSize

/-- A call that does not go on does not reach what is planned behind it. -/
theorem Works.extend {β : Type} {x : Except Fault α × Access σ} {r : Except Fault β}
    (h : Works plan brings next a x) (hx : goesOn x.1 = false) (hr : goesOn r = false)
    (plan' : List Command) (next' : Option UInt64) :
    Works (plan ++ plan') brings next' a (r, x.2) := by
  obtain ⟨answers, conversation, reads⟩ := h.conversation
  rw [hx] at conversation
  constructor
  · refine ⟨answers, ?_, ?_⟩
    · rw [hr]
      exact conversation.extend plan'
    · rw [conversation.readings_extend, reads]
  · intro goes
    simp [hr] at goes
  · exact h.chunkSize

/-- A call that goes on is followed by the next one. -/
theorem Works.append {β : Type} {x : Except Fault α × Access σ} {y : Except Fault β × Access σ}
    {plan' : List Command} {brings' : List (UInt64 × Bytes)} {next' : Option UInt64} {b : Access σ}
    (h : Works plan brings next a x) (hx : goesOn x.1 = true) (hw : b.wire = x.2.wire)
    (hc : b.chunkSize = x.2.chunkSize) (h' : Works plan' brings' next' b y) :
    Works (plan ++ plan') (brings ++ brings') next' a y := by
  obtain ⟨answers, conversation, reads⟩ := h.conversation
  obtain ⟨answers', conversation', reads'⟩ := h'.conversation
  rw [hx, ← hw] at conversation
  constructor
  · refine ⟨answers ++ answers', conversation.append conversation', ?_⟩
    rw [conversation.readings_append, reads, reads']
  · exact h'.cursor
  · rw [h'.chunkSize, hc, h.chunkSize]

theorem Converses.refl (through : Bool) (a : Access σ) : Converses through [] a a := by
  refine ⟨[], [], true, .done, rfl, ?_⟩
  intro _
  rfl

theorem Converses.congr {through : Bool} {b b' : Access σ} (h : Converses through brings b b')
    (ha : Same a b) (ha' : Same a' b') : Converses through brings a a' := by
  unfold Converses
  rw [ha.wire, ha'.wire]
  exact h

theorem Converses.append {through : Bool} {brings' : List (UInt64 × Bytes)} {a'' : Access σ}
    (h : Converses true brings a a') (h' : Converses through brings' a' a'') :
    Converses through (brings ++ brings') a a'' := by
  obtain ⟨plan, answers, complete, conversation, rfl, done⟩ := h
  obtain ⟨plan', answers', complete', conversation', rfl, done'⟩ := h'
  rw [done rfl] at conversation
  exact ⟨_, _, complete', conversation.append conversation',
    conversation.readings_append plan' answers', done'⟩

theorem command_works {c : Command} (stage : Stage) (hc : c.tag ≠ .read) (a : Access σ) :
    Works [c] [] a.cursor a (a.command c stage) := by
  obtain ⟨r, l, hl⟩ : ∃ r l, a.conn.line.command c stage = (r, l) := ⟨_, _, rfl⟩
  have silent (answers : List Bytes) : Command.readings [c] answers = [] := by
    apply Command.readings_eq_nil
    simpa using hc
  unfold command
  rw [hl]
  cases r with
  | ok _ =>
    have answered := Line.answers_of_command_ok hc hl
    constructor
    · exact ⟨[[Protocol.ack]], .single answered, silent _⟩
    · intro _
      rfl
    · rfl
  | error e =>
    obtain ⟨breaks, transport⟩ := Line.breaks_of_command_error hc hl
    constructor
    · refine ⟨[], ?_, silent _⟩
      rw [show goesOn (.error e : Except Fault Unit) = false from transport]
      exact .broken breaks
    · intro _
      rfl
    · rfl

theorem fails_of_command {c : Command} {stage : Stage} {e : Fault} (h : a.command c stage = (.error e, a')) :
    a.wire.Fails c stage e a'.wire := by
  unfold command at h
  rcases hl : a.conn.line.command c stage with ⟨r, l⟩
  rw [hl] at h
  obtain ⟨rfl, rfl⟩ := Prod.mk.inj h
  exact Line.fails_of_command_error hl

theorem command_error {c : Command} {stage : Stage} {e : Fault} (hc : c.tag ≠ .read)
    (h : a.command c stage = (.error e, a')) : e.isUsage = false :=
  ((fails_of_command h).breaks hc).2

/-- A payload goes out with one command. -/
theorem writeBlock_eq (address : UInt64) (p : Payload) (a : Access σ) :
    a.writeBlock address p.bytes = a.command (.write address p) .write := by
  unfold writeBlock Command.writeBlock
  rw [dif_pos p.length_lt]

theorem writeBlock_works (address : UInt64) (p : Payload) (a : Access σ) :
    Works [.write address p] [] a.cursor a (a.writeBlock address p.bytes) := by
  rw [writeBlock_eq]
  exact command_works .write (by simp [Command.tag]) a

theorem writeBlock_error {address : UInt64} {p : Payload} {e : Fault}
    (h : a.writeBlock address p.bytes = (.error e, a')) : e.isUsage = false := by
  rw [writeBlock_eq] at h
  exact command_error (by simp [Command.tag]) h

theorem writeBlock_converses (address : UInt64) (bytes : Bytes) (a : Access σ) :
    Converses (goesOn (a.writeBlock address bytes).1) [] a (a.writeBlock address bytes).2 := by
  by_cases size : bytes.length < UInt32.size
  · exact (writeBlock_works address ⟨bytes, size⟩ a).converses
  · unfold writeBlock Command.writeBlock
    rw [dif_neg size]
    exact .refl _ a

/-- A chunked write from any source is a conversation. -/
theorem writeChunks_converses (w : Written) (source : Source) (a : Access σ) :
    Converses (goesOn (a.writeChunks w source).1) [] a (a.writeChunks w source).2.2 := by
  fun_induction writeChunks w source a with
  | case1 => exact .refl _ _
  | case2 => exact .refl _ _
  | case3 => exact .refl _ _
  | case4 w source a b bytes rest hf address next hp e a' hw =>
    have block := writeBlock_converses address (b :: bytes) (a.note (.writing address (b :: bytes).length))
    rw [hw] at block
    exact block
  | case5 w source a b bytes rest hf address next hp a' hw ih =>
    have block := writeBlock_converses address (b :: bytes) (a.note (.writing address (b :: bytes).length))
    rw [hw] at block
    have passed : Converses true [] a (a'.passed next (b :: bytes).length) := block
    exact passed.append ih

/-- A chunk gathered from a source that spells a content is the first block of the content. -/
theorem block_of_fill {size : ChunkSize} {source rest : Source} {b : UInt8} {bytes content : Bytes}
    (hs : Piece.Spells DeviceFault.isInterruption source content)
    (hf : source.fill size.size = (.ok (b :: bytes), rest)) :
    content ≠ [] ∧ b :: bytes = (size.block content 0).bytes ∧
      Piece.Spells DeviceFault.isInterruption rest (content.drop size.size) := by
  obtain ⟨left, filled, spells⟩ := Source.fill_of_spells size.size hs
  obtain ⟨chunk, rfl⟩ : b :: bytes = content.take size.size ∧ rest = left := by simpa [hf] using filled
  refine ⟨?_, by rw [chunk, ChunkSize.block_zero], spells⟩
  rintro rfl
  simp at chunk

/-- A round of a chunked write sends the first block of what the source spells, in its place. -/
theorem round_works {source rest : Source} {content bytes : Bytes} {position : Nat} {b : UInt8}
    {address : UInt64} {behind : Option UInt64} {r : Except Fault Unit}
    (hs : Piece.Spells DeviceFault.isInterruption source content)
    (hf : source.fill a.chunkSize.size = (.ok (b :: bytes), rest)) (hc : a.cursor = cursorAt position)
    (fits : position + content.length ≤ addressCount) (hp : a.place (b :: bytes).length = .ok (address, behind))
    (hw : (a.note (.writing address (b :: bytes).length)).writeBlock address (b :: bytes) = (r, a')) :
    behind = cursorAt (position + (content.take a.chunkSize.size).length) ∧
      Works [.write (UInt64.ofNat position) (a.chunkSize.block content 0)] [] a.cursor a (r, a') ∧
      ∀ e, r = .error e → e.isUsage = false := by
  obtain ⟨-, chunk, -⟩ := block_of_fill hs hf
  have placed := hp.symm.trans (place_of_block hc fits chunk)
  simp only [Except.ok.injEq, Prod.mk.injEq] at placed
  obtain ⟨rfl, rfl⟩ := placed
  have block := writeBlock_works (UInt64.ofNat position) (a.chunkSize.block content 0)
    (a.note (.writing (UInt64.ofNat position) (b :: bytes).length))
  rw [← chunk, hw] at block
  refine ⟨rfl, block.congr (same_note _ a) rfl (.refl a'), ?_⟩
  rintro e rfl
  exact writeBlock_error (chunk ▸ hw)

/-- A chunked write from a source that spells a content sends the blocks of the content, one right
behind the other, and leaves the cursor behind the last one. -/
theorem writeChunks_works {source : Source} {content : Bytes} {position : Nat} (w : Written)
    (hs : Piece.Spells DeviceFault.isInterruption source content) (hc : a.cursor = cursorAt position)
    (fits : position + content.length ≤ addressCount) :
    Works (a.chunkSize.writes position content) [] (cursorAt (position + content.length)) a
      ((a.writeChunks w source).1, (a.writeChunks w source).2.2) := by
  -- from round to round, the source spells what is left and the cursor stands where that goes
  fun_induction writeChunks w source a generalizing content position with
  | case1 w source a e rest hf =>
    obtain ⟨left, filled, -⟩ := Source.fill_of_spells a.chunkSize.size hs
    simp [hf] at filled
  | case2 w source a rest hf =>
    obtain ⟨left, filled, -⟩ := Source.fill_of_spells a.chunkSize.size hs
    obtain ⟨empty, -⟩ : content = [] ∧ _ := by
      simpa [hf, Nat.ne_of_gt a.chunkSize.pos] using filled
    subst empty
    rw [ChunkSize.writes_nil]
    constructor
    · exact ⟨[], .done, rfl⟩
    · intro _
      exact hc
    · rfl
  | case3 w source a b bytes rest hf e hp =>
    obtain ⟨-, chunk, -⟩ := block_of_fill hs hf
    have placed := hp.symm.trans (place_of_block hc fits chunk)
    cases placed
  | case4 w source a b bytes rest hf address next hp e a' hw =>
    obtain ⟨nonempty, -, -⟩ := block_of_fill hs hf
    obtain ⟨-, block, stops⟩ := round_works hs hf hc fits hp hw
    rw [ChunkSize.writes_of_ne_nil _ _ nonempty]
    exact block.extend (stops e rfl) (r := .error e) (stops e rfl) _ _
  | case5 w source a b bytes rest hf address next hp a' hw ih =>
    obtain ⟨nonempty, -, spells⟩ := block_of_fill hs hf
    obtain ⟨rfl, block, -⟩ := round_works hs hf hc fits hp hw
    have whole : position + (content.take a.chunkSize.size).length + (content.drop a.chunkSize.size).length =
        position + content.length := by
      rw [Nat.add_assoc, ← List.length_append, List.take_append_drop]
    have later := ih spells rfl (by omega)
    generalize passed : a'.passed _ _ = a'' at later ⊢
    have same : a''.chunkSize = a.chunkSize := by
      rw [← passed]
      exact block.chunkSize
    rw [whole, same] at later
    rw [ChunkSize.writes_of_ne_nil _ _ nonempty]
    exact block.append rfl (passed ▸ rfl) (passed ▸ rfl) later

/-- A file that has no place is refused as a whole. -/
theorem writeFile_of_misplaced {storage : Storage} {path : String} {file : OpenFile} {size : Nat} {e : Fault}
    (hf : storage path = .ok file) (told : file.size = some size) (hp : a.place size = .error e) :
    a.writeFile storage path = (.error e, a) :=
  writeFile_of_refused hf (checkSize_eq_error_iff.2 ⟨size, told, hp⟩)

/-- A file that is not refused is written in chunks, as long as there is an address to begin at. -/
theorem writeFile_of_cursor {storage : Storage} {path : String} {file : OpenFile} {address : UInt64}
    (hf : storage path = .ok file) (accepted : a.checkSize file.size = .ok ()) (hc : a.cursor = some address) :
    ∃ b r rest b' a', Same a b ∧ writeChunks ⟨address, 0, 0⟩ file.content b = (r, rest, b') ∧
      a.writeFile storage path = (r, a') ∧ Same a' b' := by
  have begun : (a.counting file.size).cursor = some address := hc
  rcases hw : (a.counting file.size).writeChunks ⟨address, 0, 0⟩ file.content with ⟨r, rest, b'⟩
  have all := writeAll_of_cursor begun file.content
  rw [hw] at all
  exact ⟨_, r, rest, b', _, same_counting _ a, hw, writeFile_of_accepted hf accepted all, ⟨rfl, rfl, rfl⟩⟩

/-- The write of a whole file is a conversation, whatever the file is. -/
theorem writeFile_converses (storage : Storage) (path : String) (a : Access σ) :
    Converses (goesOn (a.writeFile storage path).1) [] a (a.writeFile storage path).2 := by
  cases hf : storage path with
  | error e =>
    rw [writeFile_of_unopened hf]
    exact .refl _ a
  | ok file =>
    cases accepted : a.checkSize file.size with
    | error e =>
      rw [writeFile_of_refused hf accepted]
      exact .refl _ a
    | ok _ =>
      cases hc : a.cursor with
      | none =>
        have exhausted : (a.counting file.size).cursor = none := hc
        rw [writeFile_of_accepted hf accepted (writeAll_of_none exhausted file.content)]
        exact (Converses.refl _ a).congr (.refl a) ⟨rfl, rfl, rfl⟩
      | some address =>
        obtain ⟨b, r, rest, b', a', same, hw, hr, same'⟩ := writeFile_of_cursor hf accepted hc
        have chunks := writeChunks_converses ⟨address, 0, 0⟩ file.content b
        rw [hw] at chunks
        rw [hr]
        exact chunks.congr same same'

/-- The write of a file that holds a content sends the blocks of the content, if it fits. -/
theorem writeFile_works {storage : Storage} {path : String} {file : OpenFile} {content : Bytes}
    (hf : storage path = .ok file) (hh : file.Holds content) (a : Access σ) :
    Works ((Action.writeFile path).commands a.chunkSize content a.cursor) []
      ((Action.writeFile path).cursorAfter content a.cursor) a (a.writeFile storage path) := by
  cases hc : a.cursor with
  | none =>
    have placed : a.place content.length = .error .endOfAddressSpace := place_of_none hc _
    rw [Action.commands_writeFile_none, Action.cursorAfter_writeFile_none,
      writeFile_of_misplaced hf hh.size placed]
    exact .of_usage rfl hc
  | some address =>
    unfold Action.commands Action.cursorAfter
    by_cases fits : positionOf (some address) + content.length ≤ addressCount
    · have placed : a.place content.length = .ok (address, cursorAt (address.toNat + content.length)) := by
        rw [place_eq, hc]
        exact if_pos fits
      have accepted : a.checkSize file.size = .ok () := by
        rw [hh.size]
        exact checkSize_of_place placed
      obtain ⟨b, r, rest, b', a', same, hw, hr, same'⟩ := writeFile_of_cursor hf accepted hc
      have start : b.cursor = cursorAt address.toNat := by rw [← same.cursor, hc, cursorAt_toNat]
      have chunks := writeChunks_works ⟨address, 0, 0⟩ hh.reads start fits
      rw [hw, ← same.chunkSize] at chunks
      rw [if_pos fits, if_pos fits, hr]
      exact Works.congr (y := (r, a')) chunks same rfl same'
    · have misfits : a.place content.length = .error (.addressOverflow address content.length) :=
        place_of_overflow hc fits
      rw [if_neg fits, if_neg fits, writeFile_of_misplaced hf hh.size misfits]
      exact .of_usage rfl hc

/-- The write of a value is one command, if it fits. -/
theorem writeValue_works (i : Immediate) (a : Access σ) :
    Works (Command.ofImmediate? i a.cursor).toList [] a.cursor a (a.writeValue i.value i.length) := by
  unfold writeValue Command.valueBytes
  by_cases short : 1 ≤ i.length ∧ i.length ≤ 8
  · rw [if_pos short]
    dsimp only
    rw [place_eq]
    cases hc : a.cursor with
    | none => exact .of_usage rfl hc
    | some address =>
      dsimp only [Command.ofImmediate?]
      by_cases fits : address.toNat + i.length ≤ addressCount
      · rw [if_pos fits, dif_pos ⟨short.1, short.2, fits⟩]
        have block := writeBlock_works address ⟨_, Command.countable_of_value i.value short.2⟩
          (a.note (.writingValue address i.value i.length))
        dsimp only at block ⊢
        rw [← hc]
        rcases hw : (a.note (.writingValue address i.value i.length)).writeBlock address
            (BigEndian.encode i.length i.value.toNat) with ⟨e | _, a'⟩ <;> rw [hw] at block
        · exact block.congr (same_note _ a) rfl (.refl a')
        · exact block.congr (same_note _ a) rfl ⟨rfl, rfl, rfl⟩
      · have misfits : ¬ (1 ≤ i.length ∧ i.length ≤ 8 ∧ address.toNat + i.length ≤ addressCount) := by
          intro h
          exact fits h.2.2
        rw [if_neg fits, dif_neg misfits]
        exact .of_usage rfl hc
  · rw [if_neg short, Command.ofImmediate?_eq_none short]
    exact .of_usage rfl rfl

/-- A read is one command, if there is an address left. -/
theorem read_works (length : UInt32) (a : Access σ) :
    Works (a.cursor.map (Command.readBlock length)).toList (a.read length).1.toOption.toList a.cursor a
      (a.read length) := by
  unfold read here
  cases hc : a.cursor with
  | none => exact .of_usage rfl hc
  | some address =>
    dsimp only
    rcases hl : (a.conn.line.note (.reading address length)).fetch length address with ⟨e | bytes, l⟩
    · obtain ⟨breaks, transport⟩ := Line.breaks_of_fetch_error hl
      constructor
      · refine ⟨[], ?_, rfl⟩
        rw [show goesOn (.error e : Except Fault (UInt64 × Bytes)) = false from transport]
        exact .broken breaks
      · intro _
        exact hc
      · rfl
    · have answers := Line.answers_of_fetch_ok hl
      constructor
      · exact ⟨[bytes], .single answers, rfl⟩
      · intro _
        exact hc
      · rfl

/-- A jump is one command, if there is an address left. -/
theorem jump_works (a : Access σ) :
    Works (a.cursor.map Command.jumpTo).toList [] a.cursor a a.jump := by
  unfold jump here
  cases hc : a.cursor with
  | none => exact .of_usage rfl hc
  | some address =>
    dsimp only
    have command := command_works .jump (by simp [Command.tag, Command.jumpTo] :
      (Command.jumpTo address).tag ≠ .read) (a.note (.jumping address))
    rcases hw : (a.note (.jumping address)).command (.jumpTo address) .jump with ⟨e | _, a'⟩ <;>
      rw [hw, show (a.note (.jumping address)).cursor = some address from hc] at command
    · exact command.congr (same_note _ a) rfl (.refl a')
    · exact command.congr (same_note _ a) rfl ⟨rfl, rfl, rfl⟩

end Memory.Access

end BootHost
