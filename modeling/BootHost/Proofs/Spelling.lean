import BootHost.Storage

/-!
# What a list of pieces spells

A list of pieces spells a content when its data, put together, is that content, and every fault in
it is one after which the call is made again. How the content is cut does not matter to whoever
reads on: a chunk gathered from a source that spells a content is its front, and what stays in the
source spells the rest.
-/

namespace BootHost

/-- The pieces bring `content`, in order, with no fault but those that `again` lets pass. An empty
piece, which looks like the end, stands only there. -/
inductive Piece.Spells (again : DeviceFault → Bool) : List Piece → Bytes → Prop where
  | nil : Spells again [] []
  | close : Spells again [.data []] []
  | data {b : UInt8} {bytes content : Bytes} {rest : List Piece} :
      Spells again rest content → Spells again (.data (b :: bytes) :: rest) (b :: (bytes ++ content))
  | fault {e : DeviceFault} {content : Bytes} {rest : List Piece} :
      again e = true → Spells again rest content → Spells again (.fault e :: rest) content

/-- A file that is as long as it is said to be and reads back without a failure. -/
structure OpenFile.Holds (file : OpenFile) (content : Bytes) : Prop where
  size : file.size = some content.length
  reads : Piece.Spells DeviceFault.isInterruption file.content content

/-- A regular file holds its content. -/
theorem OpenFile.regular_holds (content : Bytes) : (OpenFile.regular content).Holds content := by
  refine ⟨rfl, ?_⟩
  cases content with
  | nil => exact .close
  | cons b bytes => simpa [regular] using @Piece.Spells.data _ b bytes _ _ .nil

namespace Memory.Source

theorem gather_of_spells (want : Nat) (got : Bytes) {content : Bytes} {source : Source}
    (h : Piece.Spells DeviceFault.isInterruption source content) :
    ∃ rest, source.gather want got = (.ok (got.reverse ++ content.take want), rest) ∧
      Piece.Spells DeviceFault.isInterruption rest (content.drop want) := by
  induction h generalizing want got with
  | nil => cases want <;> exact ⟨[], by simp [gather], .nil⟩
  | close =>
    cases want with
    | zero => exact ⟨[.data []], by simp [gather], .close⟩
    | succ want => exact ⟨[], by simp [gather], .nil⟩
  | @data b bytes content rest h ih =>
    cases want with
    | zero => exact ⟨.data (b :: bytes) :: rest, by simp [gather], .data h⟩
    | succ want =>
      cases hd : bytes.drop want with
      | nil =>
        have short : bytes.length ≤ want := List.drop_eq_nil_iff.1 hd
        obtain ⟨back, hb, spells⟩ := ih (want - bytes.length) (bytes.reverse ++ b :: got)
        refine ⟨back, ?_, ?_⟩
        · simp [gather, hd, List.reverseAux_eq, hb, List.take_append, List.take_of_length_le short]
        · simpa [List.drop_append, hd] using spells
      | cons c back =>
        have long : want < bytes.length := by
          have := congrArg List.length hd
          simp only [List.length_drop, List.length_cons] at this
          omega
        refine ⟨.data (c :: back) :: rest, ?_, ?_⟩
        · simp [gather, hd, List.reverseAux_eq, List.take_append_of_le_length (Nat.le_of_lt long)]
        · rw [List.drop_succ_cons, List.drop_append_of_le_length (Nat.le_of_lt long), hd]
          exact .data h
  | @fault e content rest he h ih =>
    cases want with
    | zero => exact ⟨.fault e :: rest, by simp [gather], .fault he h⟩
    | succ want =>
      obtain ⟨back, hb, spells⟩ := ih (want + 1) got
      exact ⟨back, by simp [gather, he, hb], spells⟩

/-- A chunk is the front of what the source spells, and the source goes on to spell the rest. -/
theorem fill_of_spells {content : Bytes} {source : Source} (size : Nat)
    (h : Piece.Spells DeviceFault.isInterruption source content) :
    ∃ rest, source.fill size = (.ok (content.take size), rest) ∧
      Piece.Spells DeviceFault.isInterruption rest (content.drop size) := by
  simpa [fill] using gather_of_spells size [] h

end Memory.Source

end BootHost
