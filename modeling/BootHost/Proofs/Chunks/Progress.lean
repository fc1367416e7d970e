import BootHost.Proofs.Chunks.Room

/-!
# What the count shows

The count beside the writes of files goes from one write to the next. Each write that gets as far as its
first chunk starts it over, each acknowledged chunk moves it on by its own length (`Rounds.progress`), and
the end of the write finishes it or gives it up. So it stands where the cursor has come to since the write
began, which is behind the acknowledged bytes: all of the file when the write came through, and some of it
when it was stopped (`Counts`). A write that is refused ahead of that leaves the count of the earlier ones
as it is. Through any writes, one after the other, each count is told of by the exchanges of its own write
(`Watched`).
-/

namespace BootHost

open Memory Exchange

namespace Memory.Access

variable {σ : Type} [Port σ] {a a' b : Access σ} {source left rest : Source} {chunks : List Payload}
  {w : Written} {content : Bytes} {storage : Storage} {path : String} {file : OpenFile} {size : Nat}

/-- Acknowledged rounds move the count on by what they wrote. -/
theorem Rounds.progress (h : Rounds chunks source a rest b) :
    b.progress = a.progress.advance (Payload.join chunks).length := by
  induction h with
  | nil => rfl
  | @cons p chunks source left rest a a' b address next hf nonempty hp hw _ ih =>
    have kept := progress_of_writeBlock hw
    have still : a'.progress = a.progress := kept
    rw [ih, passed, still, Payload.join_cons, List.length_append]
    simp only [Progress.advance, Nat.add_assoc]

/-- The end of a chunked write moves neither the count nor the cursor. -/
theorem Ending.still {r : Except Fault Written} (h : Ending w source a r rest a') :
    a'.progress = a.progress ∧ a'.cursor = a.cursor := by
  cases h with
  | done | unread | misplaced => exact ⟨rfl, rfl⟩
  | broken _ _ _ hw =>
    have progress := progress_of_writeBlock hw
    have cursor := cursor_of_writeBlock hw
    exact ⟨progress, cursor⟩

/-- A chunked write moves count and cursor alike, over all that its source spells if it comes through, and
over less if it is stopped. -/
theorem writeChunks_progress {r : Except Fault Written}
    (hs : Piece.Spells DeviceFault.isInterruption source content)
    (h : a.writeChunks w source = (r, rest, a')) :
    ∃ count, a'.progress = a.progress.advance count ∧
      positionOf a'.cursor = positionOf a.cursor + count ∧
      ((∃ written, r = .ok written) ∧ count = content.length ∨
        (∃ e, r = .error e) ∧ count < content.length) := by
  obtain ⟨chunks, left, b, rounds, ending⟩ := writeChunks_eq_iff.1 h
  obtain ⟨content', spells⟩ := rounds.spells hs
  obtain ⟨progress, cursor⟩ := ending.still
  have whole : content.length = (Payload.join chunks).length + content'.length := by
    rw [← Source.bytes_of_spells hs, rounds.bytes, List.length_append, Source.bytes_of_spells spells]
  refine ⟨(Payload.join chunks).length, ?_, ?_, ?_⟩
  · rw [progress, rounds.progress]
  · rw [cursor, rounds.leaves.position]
  · rcases ending.remains spells with ⟨through, none⟩ | ⟨stopped, some⟩
    · exact .inl ⟨through, by omega⟩
    · exact .inr ⟨stopped, by omega⟩

/-- The write of a file that has its place is a chunked write with a count of its own. -/
theorem writeFile_of_begun {address : UInt64} {next : Option UInt64} (opens : storage path = .ok file)
    (told : file.size = some size) (placed : a.place size = .ok (address, next)) :
    ∃ r rest b, (a.counting (some size)).writeChunks ⟨address, 0, 0⟩ file.content = (r, rest, b) ∧
      a.writeFile storage path = (r, { b with progress := closed r b.progress }) := by
  have begun : (a.counting (some size)).cursor = some address := (cursor_of_place placed).1
  rcases hw : (a.counting (some size)).writeChunks ⟨address, 0, 0⟩ file.content with ⟨r, rest, b⟩
  have accepted : a.checkSize file.size = .ok () := by
    rw [told]
    exact checkSize_of_place placed
  have all := writeAll_of_cursor begun file.content
  rw [hw, ← told] at all
  exact ⟨r, rest, b, rfl, writeFile_of_accepted opens accepted all⟩

/-- What the count shows behind the write of a file, in the course of which these exchanges took place. -/
inductive Counts (storage : Storage) (path : String) (a : Access σ) :
    Except Fault Written → List Exchange → Access σ → Prop where
  /-- The file cannot be opened or has no place, and everything is as it was. -/
  | refused {e : Fault} :
      (∀ file, storage path = .ok file → ∃ size cause, file.size = some size ∧ a.place size = .error cause) →
      Counts storage path a (.error e) [] a
  /-- The whole file is written, and the count has come to its end. -/
  | written {file : OpenFile} {size : Nat} {placed : UInt64 × Option UInt64} {w : Written}
      {said : List Exchange} {a' : Access σ} : storage path = .ok file → file.size = some size →
      a.place size = .ok placed → a'.progress = ⟨travelled said, size, true⟩ → travelled said = size →
      Counts storage path a (.ok w) said a'
  /-- Some of the file is not acknowledged, and the count is over short of it. -/
  | stopped {file : OpenFile} {size : Nat} {placed : UInt64 × Option UInt64} {e : Fault}
      {said : List Exchange} {a' : Access σ} : storage path = .ok file → file.size = some size →
      a.place size = .ok placed → a'.progress = ⟨travelled said, size, true⟩ → travelled said < size →
      Counts storage path a (.error e) said a'

/-- The count behind the write of a file shows what was acknowledged of it. -/
theorem writeFile_counts (holds : ∀ file, storage path = .ok file → ∃ content, file.Holds content)
    (a : Access σ) :
    ∃ said, Hands said a (a.writeFile storage path).2 ∧ (∀ x ∈ said, x.isChunk = true) ∧
      Counts storage path a (a.writeFile storage path).1 said (a.writeFile storage path).2 := by
  have unchanged : Hands [] a a := .nothing rfl rfl
  cases opens : storage path with
  | error cause =>
    rw [writeFile_of_unopened opens]
    refine ⟨[], unchanged, nofun, .refused ?_⟩
    intro file opened
    rw [opens] at opened
    cases opened
  | ok file =>
    obtain ⟨content, told, reads⟩ := holds file opens
    cases placed : a.place content.length with
    | error cause =>
      rw [writeFile_of_misplaced opens told placed]
      refine ⟨[], unchanged, nofun, .refused ?_⟩
      intro file' opened
      obtain rfl : file = file' := Except.ok.inj (opens.symm.trans opened)
      exact ⟨_, cause, told, placed⟩
    | ok place =>
      obtain ⟨r, rest, b, written, whole⟩ := writeFile_of_begun opens told placed
      obtain ⟨said, course, chunked⟩ := writeFile_course whole
      obtain ⟨count, progress, cursor, outcome⟩ := writeChunks_progress reads written
      -- count and exchanges are both measured by the cursor
      have same : count = travelled said := Nat.add_left_cancel (cursor.symm.trans course.position)
      subst same
      rw [whole]
      refine ⟨said, course.hands, chunked, ?_⟩
      rcases outcome with ⟨⟨w, rfl⟩, all⟩ | ⟨⟨e, rfl⟩, some⟩
      · refine .written opens told placed ?_ all
        rw [closed, progress, all]
        rfl
      · refine .stopped opens told placed ?_ some
        rw [closed, progress]
        simp [counting, Progress.advance, Progress.start, Progress.abandon]

/-- Writes of files, one after the other, with the exchanges of each and the count behind it. -/
inductive Watched : List (Storage × String) → List (List Exchange) → Access σ → Access σ → Prop where
  | nil {a : Access σ} : Watched [] [] a a
  | cons {storage : Storage} {path : String} {files : List (Storage × String)} {said : List Exchange}
      {history : List (List Exchange)} {r : Except Fault Written} {a a' b : Access σ} :
      a.writeFile storage path = (r, a') → Hands said a a' → (∀ x ∈ said, x.isChunk = true) →
      Counts storage path a r said a' → Watched files history a' b →
      Watched ((storage, path) :: files) (said :: history) a b

/-- The calls that write some files. -/
def writing (files : List (Storage × String)) : List Call :=
  files.map fun f => .perform f.1 (.writeFile f.2)

/-- Through any writes of files that are as long as they are said to be, the count shows at each time what
was acknowledged of the last file that was begun, and nothing more. -/
theorem count_shows_acknowledged (files : List (Storage × String))
    (hold : ∀ f ∈ files, ∀ file, f.1 f.2 = .ok file → ∃ content, file.Holds content) (a : Access σ) :
    ∃ history, Watched files history a (a.after (writing files)) := by
  induction files generalizing a with
  | nil => exact ⟨[], .nil⟩
  | cons f files ih =>
    rw [List.forall_mem_cons] at hold
    obtain ⟨said, hands, chunked, counts⟩ := writeFile_counts hold.1 a
    obtain ⟨history, later⟩ := ih hold.2 (a.writeFile f.1 f.2).2
    have one : (a.call (.perform f.1 (.writeFile f.2))).2 = (a.writeFile f.1 f.2).2 := by
      unfold call perform
      dsimp only
      split <;> rename_i whole <;> rw [whole]
    have next : a.after (writing (f :: files)) = (a.writeFile f.1 f.2).2.after (writing files) := by
      rw [← one]
      rfl
    rw [next]
    exact ⟨said :: history, .cons rfl hands chunked counts later⟩

/-- A file that does not fit leaves the count alone. The next one does, and its second chunk is refused: the
count shows two of its three bytes. -/
theorem count_shows_acknowledged_near_top :
    (∃ history, Watched [(storing [1, 2, 3, 4], "program"), (storing [1, 2, 3], "program")] history nearTop
      (nearTop.after (writing [(storing [1, 2, 3, 4], "program"), (storing [1, 2, 3], "program")]))) ∧
      (nearTop.after (writing [(storing [1, 2, 3, 4], "program")])).progress = nearTop.progress ∧
      (nearTop.after (writing [(storing [1, 2, 3, 4], "program"), (storing [1, 2, 3], "program")])).progress =
        ⟨2, 3, true⟩ := by
  have holds (content : Bytes) :
      ∀ file, storing content "program" = .ok file → ∃ content, file.Holds content := by
    intro file opened
    obtain rfl := Except.ok.inj opened
    exact ⟨content, OpenFile.regular_holds content⟩
  refine ⟨count_shows_acknowledged _ ?_ nearTop, by decide +kernel, by decide +kernel⟩
  simp only [List.forall_mem_cons]
  exact ⟨holds _, holds _, nofun⟩

end Memory.Access

end BootHost
