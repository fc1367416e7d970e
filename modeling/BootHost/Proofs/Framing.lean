import BootHost.Command
import Mathlib.Data.List.Induction

/-!
# Framing

Commands go out one right behind the other, with nothing between them, and the board still knows
where each of them ends: the tag says what follows it, and the header of a write says how long its
payload is. `Command.ofFront?` reads a stream that way. Whatever comes behind a command, it gives
back the command and leaves the rest (`ofFront?_encode`). So the encoding of one command is never
the front of another one, and a stream of commands comes apart in one way only.
-/

namespace BootHost

namespace BigEndian

/-- Bytes spell a number that their width has room for. -/
theorem value_lt {width : Nat} {bytes : Bytes} (h : bytes.length = width) : value bytes < capacity width := by
  subst h
  induction bytes using List.reverseRecOn with
  | nil => decide
  | append_singleton bytes b ih =>
    have digit : b.toNat < 256 := b.toNat_lt
    rw [value_append_singleton, List.length_append, List.length_singleton, capacity]
    omega

/-- A number that bytes spell is written with the same bytes on their width. -/
theorem encode_value {width : Nat} {bytes : Bytes} (h : bytes.length = width) :
    encode width (value bytes) = bytes := by
  subst h
  induction bytes using List.reverseRecOn with
  | nil => rfl
  | append_singleton bytes b ih =>
    have digit : b.toNat < 256 := b.toNat_lt
    have front : (value bytes * 256 + b.toNat) / 256 = value bytes := by omega
    have last : UInt8.ofNat (value bytes * 256 + b.toNat) = b := by
      apply UInt8.toNat_inj.1
      rw [UInt8.toNat_ofNat']
      omega
    rw [value_append_singleton, List.length_append, List.length_singleton, encode, front, last, ih]

/-- A number that a width has room for is read back as it was written. -/
theorem value_encode_of_lt {width n : Nat} (h : n < capacity width) : value (encode width n) = n := by
  rw [value_encode, Nat.mod_eq_of_lt h]

end BigEndian

/-- Headers of a fixed width are written as bytes and read back, with nothing lost either way. -/
structure HeaderCode {α : Type} (width : Nat) (encode : α → Bytes) (decode? : Bytes → Option α) : Prop where
  /-- A header is read off the front of whatever it was written ahead of. -/
  decode_encode (h : α) (rest : Bytes) : decode? (encode h ++ rest) = some h
  /-- Only bytes that are too few hold no header. -/
  decode_eq_none_iff (bytes : Bytes) : decode? bytes = none ↔ bytes.length < width
  /-- A header that was read is written with the bytes that it was read from. -/
  encode_decode {bytes : Bytes} {h : α} : decode? bytes = some h → encode h = bytes.take width

namespace BlockHeader

theorem decode?_encode (h : BlockHeader) (rest : Bytes) : decode? (h.encode ++ rest) = some h := by
  obtain ⟨length, address⟩ := h
  have enough : width ≤ (encode ⟨length, address⟩ ++ rest).length := by
    rw [List.length_append, length_encode]
    omega
  have first : (encode ⟨length, address⟩ ++ rest).take 4 = BigEndian.encode 4 length.toNat := by
    simp [encode]
  have second : ((encode ⟨length, address⟩ ++ rest).drop 4).take 8 = BigEndian.encode 8 address.toNat := by
    simp [encode]
  unfold decode?
  rw [if_pos enough, first, second, BigEndian.value_encode_of_lt (UInt32.toNat_lt_size length),
    BigEndian.value_encode_of_lt (UInt64.toNat_lt_size address), UInt32.ofNat_toNat, UInt64.ofNat_toNat]

theorem encode_of_decode? {bytes : Bytes} {h : BlockHeader} (read : decode? bytes = some h) :
    h.encode = bytes.take width := by
  unfold decode? at read
  split at read
  · rename_i enough
    obtain rfl := Option.some.inj read
    have four : (bytes.take 4).length = 4 := by
      rw [List.length_take]
      unfold width at enough
      omega
    have eight : ((bytes.drop 4).take 8).length = 8 := by
      rw [List.length_take, List.length_drop]
      unfold width at enough
      omega
    have low : BigEndian.value (bytes.take 4) < UInt32.size := BigEndian.value_lt four
    have high : BigEndian.value ((bytes.drop 4).take 8) < UInt64.size := BigEndian.value_lt eight
    unfold encode
    rw [UInt32.toNat_ofNat_of_lt' low, UInt64.toNat_ofNat_of_lt' high, BigEndian.encode_value four,
      BigEndian.encode_value eight]
    exact (List.take_add (i := 4) (j := 8)).symm
  · cases read

theorem code : HeaderCode width encode decode? where
  decode_encode := decode?_encode
  decode_eq_none_iff bytes := by
    unfold decode?
    split <;> simp <;> omega
  encode_decode := encode_of_decode?

end BlockHeader

namespace JumpHeader

theorem decode?_encode (h : JumpHeader) (rest : Bytes) : decode? (h.encode ++ rest) = some h := by
  obtain ⟨address⟩ := h
  have enough : width ≤ (encode ⟨address⟩ ++ rest).length := by
    rw [List.length_append, length_encode]
    omega
  have only : (encode ⟨address⟩ ++ rest).take 8 = BigEndian.encode 8 address.toNat := by
    simp [encode]
  unfold decode?
  rw [if_pos enough, only, BigEndian.value_encode_of_lt (UInt64.toNat_lt_size address), UInt64.ofNat_toNat]

theorem encode_of_decode? {bytes : Bytes} {h : JumpHeader} (read : decode? bytes = some h) :
    h.encode = bytes.take width := by
  unfold decode? at read
  split at read
  · rename_i enough
    obtain rfl := Option.some.inj read
    have eight : (bytes.take 8).length = 8 := List.length_take_of_le enough
    have high : BigEndian.value (bytes.take 8) < UInt64.size := BigEndian.value_lt eight
    unfold encode
    rw [UInt64.toNat_ofNat_of_lt' high]
    exact BigEndian.encode_value eight
  · cases read

theorem code : HeaderCode width encode decode? where
  decode_encode := decode?_encode
  decode_eq_none_iff bytes := by
    unfold decode?
    split <;> simp <;> omega
  encode_decode := encode_of_decode?

end JumpHeader

/-- The tag that a byte stands for, if it stands for one. -/
def Tag.ofByte? (b : UInt8) : Option Tag :=
  if b = Tag.read.byte then some .read
  else if b = Tag.write.byte then some .write
  else if b = Tag.jump.byte then some .jump
  else none

@[simp] theorem Tag.ofByte?_byte (tag : Tag) : ofByte? tag.byte = some tag := by
  cases tag <;> rfl

/-- A payload of the declared length at the front of some bytes, if there are enough of them. -/
def Payload.ofFront? (length : UInt32) (bytes : Bytes) : Option Payload :=
  if length.toNat ≤ bytes.length then
    some ⟨bytes.take length.toNat, Nat.lt_of_le_of_lt (List.length_take_le ..) length.toNat_lt_size⟩
  else none

namespace Command

/-- The command at the front of some bytes, and the bytes behind it. -/
def ofFront? : Bytes → Option (Command × Bytes)
  | [] => none
  | b :: bytes =>
    match Tag.ofByte? b with
    | none => none
    | some .read =>
      (BlockHeader.decode? bytes).map fun h => (.read h, bytes.drop BlockHeader.width)
    | some .write =>
      (BlockHeader.decode? bytes).bind fun h =>
        (Payload.ofFront? h.length (bytes.drop BlockHeader.width)).map fun p =>
          (.write h.address p, (bytes.drop BlockHeader.width).drop h.length.toNat)
    | some .jump =>
      (JumpHeader.decode? bytes).map fun h => (.jump h, bytes.drop JumpHeader.width)

/-- The header of a write declares its payload, and nothing of what follows. -/
theorem payload_ofFront? (p : Payload) (rest : Bytes) :
    Payload.ofFront? p.length (p.bytes ++ rest) = some p ∧ (p.bytes ++ rest).drop p.length.toNat = rest := by
  have declared : p.length.toNat = p.bytes.length := UInt32.toNat_ofNat_of_lt' p.length_lt
  constructor
  · unfold Payload.ofFront?
    rw [if_pos (by simp [declared])]
    simp [declared]
  · rw [declared, List.drop_left]

/-- A command is read off the front of whatever it was sent ahead of. -/
theorem ofFront?_encode (c : Command) (rest : Bytes) : ofFront? (c.encode ++ rest) = some (c, rest) := by
  cases c with
  | read h =>
    have behind : (h.encode ++ rest).drop BlockHeader.width = rest := List.drop_left' h.length_encode
    simp [ofFront?, encode, tag, header, payload, BlockHeader.decode?_encode, behind]
  | write address p =>
    have decoded := BlockHeader.decode?_encode ⟨p.length, address⟩ (p.bytes ++ rest)
    have behind : (BlockHeader.encode ⟨p.length, address⟩ ++ (p.bytes ++ rest)).drop BlockHeader.width =
        p.bytes ++ rest := List.drop_left' (BlockHeader.length_encode _)
    obtain ⟨whole, left⟩ := payload_ofFront? p rest
    simp [ofFront?, encode, tag, header, payload, decoded, behind, whole, left]
  | jump h =>
    have behind : (h.encode ++ rest).drop JumpHeader.width = rest := List.drop_left' h.length_encode
    simp [ofFront?, encode, tag, header, payload, JumpHeader.decode?_encode, behind]

/-- Commands at the front of the same bytes are the same, and so is what is behind them. -/
theorem encode_append_inj {c d : Command} {rest rest' : Bytes} (h : c.encode ++ rest = d.encode ++ rest') :
    c = d ∧ rest = rest' := by
  have both := ofFront?_encode c rest
  rw [h, ofFront?_encode] at both
  have same := Option.some.inj both
  exact ⟨(congrArg Prod.fst same).symm, (congrArg Prod.snd same).symm⟩

theorem encode_isPrefix_iff {c d : Command} : c.encode <+: d.encode ↔ c = d := by
  constructor
  · rintro ⟨rest, h⟩
    rw [← List.append_nil d.encode] at h
    exact (encode_append_inj h).1
  · rintro rfl
    exact List.prefix_rfl

/-- Streams of commands are the same only if the commands are. -/
theorem flatMap_encode_eq_iff {plan plan' : List Command} :
    plan.flatMap encode = plan'.flatMap encode ↔ plan = plan' := by
  constructor
  · intro same
    induction plan generalizing plan' with
    | nil =>
      cases plan' with
      | nil => rfl
      | cons d plan' => simp [encode] at same
    | cons c plan ih =>
      cases plan' with
      | nil => simp [encode] at same
      | cons d plan' =>
        rw [List.flatMap_cons, List.flatMap_cons] at same
        obtain ⟨rfl, later⟩ := encode_append_inj same
        rw [ih later]
  · rintro rfl
    rfl

/-- What is sent can be read in one way only: no command begins with another one, streams of commands
are told apart by their bytes, and headers are read back from wherever they were written. -/
theorem framing_is_unambiguous :
    (∀ c d : Command, c.encode <+: d.encode ↔ c = d) ∧
    (∀ plan plan' : List Command, plan.flatMap encode = plan'.flatMap encode ↔ plan = plan') ∧
    HeaderCode BlockHeader.width BlockHeader.encode BlockHeader.decode? ∧
    HeaderCode JumpHeader.width JumpHeader.encode JumpHeader.decode? := by
  refine ⟨?_, ?_, BlockHeader.code, JumpHeader.code⟩
  · intro c d
    exact encode_isPrefix_iff
  · intro plan plan'
    exact flatMap_encode_eq_iff

end Command

end BootHost
