import BootHost.Piece

/-!
# Sources

Where the bytes of a chunked write come from: a list of pieces. `fill` gathers a chunk by reading
until it is full or a read brings nothing, which ends this chunk only. Interrupted reads are made
again; any other fault loses what was gathered.
-/

namespace BootHost.Memory

/-- All that a source will ever say, in order. -/
abbrev Source := List Piece

namespace Source

/-- Gathers up to `want` more bytes; `got` holds the earlier ones, the latest first. -/
def gather : Nat → Bytes → Source → Except DeviceFault Bytes × Source
  | 0, got, source => (.ok got.reverse, source)
  | _ + 1, got, [] => (.ok got.reverse, [])
  | want + 1, got, .fault e :: rest =>
    if e.isInterruption then gather (want + 1) got rest else (.error e, rest)
  | _ + 1, got, .data [] :: rest => (.ok got.reverse, rest)
  | want + 1, got, .data (b :: bytes) :: rest =>
    match bytes.drop want with
    | [] => gather (want - bytes.length) (bytes.reverseAux (b :: got)) rest
    | c :: back => (.ok ((bytes.take want).reverseAux (b :: got)).reverse, .data (c :: back) :: rest)

/-- Gathers a chunk of up to `size` bytes. -/
def fill (size : Nat) (source : Source) : Except DeviceFault Bytes × Source :=
  source.gather size []

/-- What a chunk holds is no longer in the source. -/
theorem totalWeight_gather {want : Nat} {got chunk : Bytes} {source rest : Source}
    (h : gather want got source = (.ok chunk, rest)) :
    Piece.totalWeight rest + chunk.length ≤ Piece.totalWeight source + got.length := by
  fun_induction gather want got source with
  | case1 =>
    obtain ⟨rfl, rfl⟩ : _ ∧ _ := by simpa using h
    simp
  | case2 =>
    obtain ⟨rfl, rfl⟩ : _ ∧ _ := by simpa using h
    simp
  | case3 want got e rest' he ih =>
    have := ih h
    simp only [Piece.totalWeight_cons, Piece.weight]
    omega
  | case4 => simp at h
  | case5 =>
    obtain ⟨rfl, rfl⟩ : _ ∧ _ := by simpa using h
    simp
  | case6 want got b bytes rest' hd ih =>
    have := ih h
    simp only [Piece.totalWeight_cons, Piece.weight, List.reverseAux_eq, List.length_append,
      List.length_reverse, List.length_cons] at this ⊢
    omega
  | case7 want got b bytes rest' c back hd =>
    obtain ⟨rfl, rfl⟩ : _ ∧ _ := by simpa using h
    have := congrArg List.length hd
    simp only [Piece.totalWeight_cons, Piece.weight, List.length_append, List.length_reverse,
      List.length_cons, List.length_drop, List.length_take] at this ⊢
    omega

/-- A source that gave a chunk has less left to say. -/
theorem totalWeight_fill_lt {size : Nat} {b : UInt8} {chunk : Bytes} {source rest : Source}
    (h : source.fill size = (.ok (b :: chunk), rest)) :
    Piece.totalWeight rest < Piece.totalWeight source := by
  have := totalWeight_gather h
  simp only [List.length_cons, List.length_nil] at this
  omega

theorem length_le_of_gather {want : Nat} {got chunk : Bytes} {source rest : Source}
    (h : gather want got source = (.ok chunk, rest)) : chunk.length ≤ got.length + want := by
  fun_induction gather want got source with
  | case1 | case2 | case5 =>
    obtain ⟨rfl, rfl⟩ : _ ∧ _ := by simpa using h
    simp
  | case3 want got e rest' he ih => exact ih h
  | case4 => simp at h
  | case6 want got b bytes rest' hd ih =>
    have gathered := ih h
    have short := List.drop_eq_nil_iff.1 hd
    simp only [List.reverseAux_eq, List.length_append, List.length_reverse, List.length_cons] at gathered
    omega
  | case7 want got b bytes rest' c back hd =>
    obtain ⟨rfl, rfl⟩ : _ ∧ _ := by simpa using h
    simp only [List.length_append, List.length_reverse, List.length_cons, List.length_take]
    omega

/-- A chunk is no longer than it may be. -/
theorem length_le_of_fill {size : Nat} {chunk : Bytes} {source rest : Source}
    (h : source.fill size = (.ok chunk, rest)) : chunk.length ≤ size := by
  simpa using length_le_of_gather h

end Source

end BootHost.Memory
