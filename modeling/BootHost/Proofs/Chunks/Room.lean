import BootHost.Proofs.Chunks.Halts

/-!
# Room for a file

The write of a file asks once, ahead of its first chunk, whether the whole file fits; the chunks then ask
again, each for itself. The two agree because the rounds of a chunked write keep the place that what is
left of the source comes to (`Rounds.comes_to`): when it was below the top of the memory at first, every
chunk has its place. So the end of the memory refuses a file as a whole, and cuts none short, as long as
the file is as long as it is said to be.
-/

namespace BootHost

open Memory

/-- A source that spells a content holds it. -/
theorem Memory.Source.bytes_of_spells {again : DeviceFault → Bool} {source : Source} {content : Bytes}
    (h : Piece.Spells again source content) : source.bytes = content := by
  induction h with
  | nil => rfl
  | close => rfl
  | data _ ih => rw [bytes_data, ih, List.cons_append]
  | fault _ _ ih => rw [bytes_fault, ih]

namespace Memory.Access

section Place

variable {σ : Type} {a : Access σ} {source rest : Source}

/-- A chunk has its place when there is room for all that its source holds. -/
theorem place_of_room {chunk : Bytes} (room : positionOf a.cursor + source.bytes.length ≤ addressCount)
    (hf : source.fill a.chunkSize.size = (.ok chunk, rest)) (nonempty : chunk ≠ []) :
    ∃ placed, a.place chunk.length = .ok placed := by
  have here : a.cursor = cursorAt (positionOf a.cursor) := (cursorAt_positionOf a.cursor).symm
  have few : chunk.length ≤ source.bytes.length := by
    rw [Source.bytes_of_fill hf, List.length_append]
    exact Nat.le_add_right ..
  exact ⟨_, place_of_fits here (List.length_pos_iff.2 nonempty) (by omega)⟩

end Place

variable {σ : Type} [Port σ] {a a' b : Access σ} {source rest : Source} {chunks : List Payload}
  {w : Written} {content : Bytes} {e : Fault}

/-- A block that is not acknowledged was stopped by its answer or by the line. -/
theorem external_of_writeBlock {address : UInt64} {p : Payload}
    (h : a.writeBlock address p.bytes = (.error e, a')) : e.isExternal = true := by
  have fails := fails_of_writeBlock h
  generalize a.wire = u, a'.wire = v at fails
  cases fails <;> rfl

/-- Acknowledged rounds keep the place that what is left of the source comes to. -/
theorem Rounds.comes_to (h : Rounds chunks source a rest b) :
    positionOf b.cursor + rest.bytes.length = positionOf a.cursor + source.bytes.length := by
  rw [h.leaves.position, h.bytes, List.length_append, Nat.add_assoc]

/-- Behind acknowledged rounds a source still spells something. -/
theorem Rounds.spells (h : Rounds chunks source a rest b)
    (hs : Piece.Spells DeviceFault.isInterruption source content) :
    ∃ content', Piece.Spells DeviceFault.isInterruption rest content' := by
  induction h generalizing content with
  | nil => exact ⟨content, hs⟩
  | cons hf _ _ _ _ ih =>
    obtain ⟨left, filled, spells⟩ := Source.fill_of_spells _ hs
    rw [hf] at filled
    obtain ⟨-, rfl⟩ := Prod.mk.inj filled
    exact ih spells

/-- With room for all that the source holds, a chunked write is stopped from outside or not at all. -/
theorem Ending.external_of_room (ends : Ending w source a (.error e) rest a')
    (room : positionOf a.cursor + source.bytes.length ≤ addressCount) : e.isExternal = true := by
  cases ends with
  | unread => rfl
  | misplaced hf nonempty misplaced =>
    obtain ⟨placed, hp⟩ := place_of_room room hf nonempty
    rw [misplaced] at hp
    cases hp
  | broken _ _ _ hw => exact external_of_writeBlock hw

theorem writeChunks_external_of_room (room : positionOf a.cursor + source.bytes.length ≤ addressCount)
    (h : a.writeChunks w source = (.error e, rest, a')) : e.isExternal = true := by
  obtain ⟨chunks, left, b, rounds, ending⟩ := writeChunks_eq_iff.1 h
  rw [← rounds.comes_to] at room
  exact ending.external_of_room room

/-- A source that spells something has nothing left when a chunked write comes through, and has something
left when it is stopped. -/
theorem Ending.remains {r : Except Fault Written} (h : Ending w source a r rest a')
    (hs : Piece.Spells DeviceFault.isInterruption source content) :
    (∃ written, r = .ok written) ∧ content.length = 0 ∨ (∃ e, r = .error e) ∧ 0 < content.length := by
  obtain ⟨_, filled, -⟩ := Source.fill_of_spells a.chunkSize.size hs
  have some {chunk : Bytes} (hf : source.fill a.chunkSize.size = (.ok chunk, rest)) (nonempty : chunk ≠ []) :
      0 < content.length := by
    have front := Source.bytes_of_fill hf
    rw [Source.bytes_of_spells hs] at front
    rw [front]
    exact List.length_pos_iff.2 (List.append_ne_nil_of_left_ne_nil nonempty _)
  cases h with
  | done hf =>
    -- an empty chunk means that nothing is left, since a chunk size is never zero
    obtain ⟨empty, -⟩ : content = [] ∧ _ := by simpa [hf, Nat.ne_of_gt a.chunkSize.pos] using filled
    exact .inl ⟨⟨w, rfl⟩, by rw [empty]; rfl⟩
  | unread hf =>
    rw [hf] at filled
    cases filled
  | misplaced hf nonempty _ => exact .inr ⟨⟨_, rfl⟩, some hf nonempty⟩
  | broken hf nonempty _ _ => exact .inr ⟨⟨_, rfl⟩, some hf nonempty⟩

variable {storage : Storage} {path : String} {file : OpenFile} {size : Nat}

/-- A file that is as long as it is said to be is refused as a whole when it does not fit, and the access
stays as it was. A file that fits is never cut short by the end of the memory, whatever the size of the
chunks and the answers are: only an answer, the line or the file itself can stop it. -/
theorem writeFile_runs_out_up_front_or_never (opens : storage path = .ok file)
    (told : file.size = some size) (sized : file.content.bytes.length = size) (a : Access σ) :
    (a.cursor = none → a.writeFile storage path = (.error .endOfAddressSpace, a)) ∧
    (∀ address, a.cursor = some address → addressCount < address.toNat + size →
      a.writeFile storage path = (.error (.addressOverflow address size), a)) ∧
    ∀ address, a.cursor = some address → address.toNat + size ≤ addressCount →
      ∀ e, (a.writeFile storage path).1 = .error e → e.isExternal = true := by
  refine ⟨?_, ?_, ?_⟩
  · intro exhausted
    exact writeFile_of_misplaced opens told (place_of_none exhausted _)
  · intro address here beyond
    exact writeFile_of_misplaced opens told (place_of_overflow here (Nat.not_le_of_lt beyond))
  · intro address here fits e failed
    have placed : a.place size = .ok (address, cursorAt (address.toNat + size)) := by
      rw [place_eq, here]
      exact if_pos fits
    have accepted : a.checkSize file.size = .ok () := by
      rw [told]
      exact checkSize_of_place placed
    obtain ⟨b, r, rest, b', a', same, chunks, whole, -⟩ := writeFile_of_cursor opens accepted here
    have room : positionOf b.cursor + file.content.bytes.length ≤ addressCount := by
      rw [← same.cursor, here, sized]
      exact fits
    rw [whole] at failed
    obtain rfl : r = .error e := failed
    exact writeChunks_external_of_room room chunks

/-- An access three addresses below the top, to a board that acknowledges one chunk and refuses the next. -/
def nearTop : Access Queued := { halting with cursor := some 0xFFFFFFFFFFFFFFFD }

/-- Where every path opens a file with these bytes. -/
def storing (content : Bytes) : Storage := fun _ => .ok (.regular content)

/-- Four bytes do not fit below the top and are refused as a whole. Three do, though the second of their
chunks may still be refused by the board. -/
theorem writeFile_runs_out_up_front_or_never_near_top :
    nearTop.writeFile (storing [1, 2, 3, 4]) "program" =
      (.error (.addressOverflow 0xFFFFFFFFFFFFFFFD 4), nearTop) ∧
    ∃ e, (nearTop.writeFile (storing [1, 2, 3]) "program").1 = .error e ∧ e = .refused .write .nack ∧
      e.isExternal = true := by
  have stopped : (nearTop.writeFile (storing [1, 2, 3]) "program").1 = .error (.refused .write .nack) := by
    decide +kernel
  have opens (content : Bytes) : storing content "program" = .ok (.regular content) := rfl
  obtain ⟨-, refused, -⟩ := writeFile_runs_out_up_front_or_never (opens [1, 2, 3, 4]) rfl rfl nearTop
  obtain ⟨-, -, halted⟩ := writeFile_runs_out_up_front_or_never (opens [1, 2, 3]) rfl rfl nearTop
  refine ⟨?_, _, stopped, rfl, ?_⟩
  · exact refused _ rfl (by decide +kernel)
  · exact halted _ rfl (by decide +kernel) _ stopped

end Memory.Access

end BootHost
