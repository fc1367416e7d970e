import BootHost.Console.CommandLine
import BootHost.Proofs.Numerals

/-!
# From the words to the set-up

Each value on a command line is read twice: when it is checked, and again when the set-up is made, which
falls back on something else wherever it cannot read a value. What the check admits is told without it
(`Argument.Admits`), and so is what it asks of a whole command line (`Checked`). For every such command line the
set-up takes over all that is given (`TakesOver`), so nothing ever falls back. The words that are accepted make a
command line of this kind, in which each value that was found among them is the value of its argument.
-/

namespace BootHost

/-- How a number of data bits is asked for. -/
def DataBits.choice : DataBits → String
  | .five => "5"
  | .six => "6"
  | .seven => "7"
  | .eight => "8"

/-- How a number of stop bits is asked for. -/
def StopBits.choice : StopBits → String
  | .one => "1"
  | .two => "2"

/-- How a parity is asked for. -/
def Parity.choice : Parity → String
  | .none => "none"
  | .odd => "odd"
  | .even => "even"

/-- How a kind of flow control is asked for. -/
def FlowControl.choice : FlowControl → String
  | .none => "none"
  | .software => "soft"
  | .hardware => "hard"

namespace Console

open Text.Numeral

/-- The values that an argument admits. -/
def Argument.Admits (a : Argument) (value : String) : Prop :=
  match a with
  | .address | .writeData => ∃ w, Setup.readWord value = .ok w
  | .writeLength => ∃ n, Setup.readCount value = .ok n
  | .readLength => ∃ n, Setup.readLength value = .ok n
  | .baudRate => ∃ r, Argument.readBaudRate value = .ok r
  | .dataBits | .stopBits | .parity | .flowControl => value ∈ a.choices
  | .writeFile | .device | .jump | .noWait | .quiet | .verbose => True

namespace CommandLine

variable {a : Argument} {c : CommandLine} {s : Scan} {v : String}

/-- What the checks ask of a command line. -/
structure Checked (c : CommandLine) : Prop where
  address : (c.value? .address).isSome = true
  /-- A value to write and its length come together. -/
  together : (c.value? .writeData).isSome = (c.value? .writeLength).isSome
  admits : ∀ a, ∀ v ∈ c.values a, a.Admits v

/-- The set-up takes over what the command line gives. -/
structure TakesOver (c : CommandLine) (s : Setup) : Prop where
  path : s.path = c.value? .device
  address : ∃ v, c.value? .address = some v ∧ Setup.readWord v = .ok s.address
  /-- The rate is the decimal number that is given. -/
  baudRate : ∀ v, c.value? .baudRate = some v → Denotes 10 v.toList s.baudRate.toNat
  dataBits : ∀ v, c.value? .dataBits = some v → s.dataBits.choice = v
  stopBits : ∀ v, c.value? .stopBits = some v → s.stopBits.choice = v
  parity : ∀ v, c.value? .parity = some v → s.parity.choice = v
  flowControl : ∀ v, c.value? .flowControl = some v → s.flowControl.choice = v
  writeFile : s.request.writeFile = c.value? .writeFile
  /-- A value is written just when one is given, with the length that is given. -/
  writeValue : ∀ i, s.request.writeValue = some i ↔ ∃ v n, c.value? .writeData = some v ∧
    c.value? .writeLength = some n ∧ Setup.readWord v = .ok i.value ∧ Setup.readCount n = .ok i.length
  writeValueGiven : s.request.writeValue.isSome = (c.value? .writeData).isSome ∧
    s.request.writeValue.isSome = (c.value? .writeLength).isSome
  /-- No length is cut down, as long as it is one that a word holds. -/
  anyLength : ∀ n < UInt64.size, ∀ digits text, Prints 10 n digits → Dresses [] digits text.toList →
    c.value? .writeLength = some text → s.request.writeValue.map Immediate.length = some n
  readLength : ∀ n, s.request.readLength = some n ↔
    ∃ v, c.value? .readLength = some v ∧ Setup.readLength v = .ok n
  readLengthGiven : s.request.readLength.isSome = (c.value? .readLength).isSome
  jump : s.request.jump = c.has .jump
  skipWait : s.skipWait = c.has .noWait
  quiet : s.quiet = c.has .quiet
  /-- Nothing is asked for only where none of the four operations is given. -/
  isEmpty : s.request.isEmpty = true ↔ c.value? .writeFile = none ∧ c.value? .writeData = none ∧
    c.value? .readLength = none ∧ c.has .jump = false

/-! ### What the check admits -/

theorem valueComplaint?_eq_none :
    valueComplaint? a v = none ↔ (a.choices = [] ∨ v ∈ a.choices) ∧ a.objection? v = none := by
  by_cases unlisted : a.choices = []
  · simp [valueComplaint?, unlisted]
  · by_cases listed : v ∈ a.choices <;> simp [valueComplaint?, unlisted, listed]

/-- Nothing is wrong with a value just when its argument admits it. -/
theorem valueComplaint?_eq_none_iff : valueComplaint? a v = none ↔ a.Admits v := by
  rw [valueComplaint?_eq_none]
  cases a with
  | address | writeData =>
    cases read : Setup.readWord v <;> simp [Argument.choices, Argument.objection?, Argument.Admits, read]
  | writeLength =>
    cases read : Setup.readCount v <;> simp [Argument.choices, Argument.objection?, Argument.Admits, read]
  | readLength =>
    cases read : Setup.readLength v <;> simp [Argument.choices, Argument.objection?, Argument.Admits, read]
  | baudRate =>
    cases read : Argument.readBaudRate v <;>
      simp [Argument.choices, Argument.objection?, Argument.Admits, read]
  | dataBits | stopBits | parity | flowControl =>
    simp [Argument.choices, Argument.objection?, Argument.Admits]
  | writeFile | device | jump | noWait | quiet | verbose =>
    simp [Argument.choices, Argument.Admits, Argument.objection?]

/-! ### What is read again -/

section Readings

variable {ε α : Type} {read : String → Except ε α} {given : Option String}

/-- What is read of a value is what is read of the one that is given. -/
theorem reading_eq_some_iff {x : α} :
    (given.bind fun v => (read v).toOption) = some x ↔ ∃ v, given = some v ∧ read v = .ok x := by
  simp only [Option.bind_eq_some_iff, toOption_eq_some_iff]

/-- Where a value that is given can be read, something was read just when one is given. -/
theorem reading_isSome (admitted : ∀ v, given = some v → ∃ x, read v = .ok x) :
    (given.bind fun v => (read v).toOption).isSome = given.isSome := by
  cases given with
  | none => rfl
  | some v =>
    obtain ⟨x, read⟩ := admitted v rfl
    rw [Option.bind_some, read]
    rfl

/-- Nor is anything put in its place then. -/
theorem reading_getD {other : α} (admitted : ∀ v, given = some v → ∃ x, read v = .ok x) (h : given = some v) :
    read v = .ok ((given.bind fun v => (read v).toOption).getD other) := by
  obtain ⟨x, read⟩ := admitted v h
  rw [reading_eq_some_iff.2 ⟨v, h, read⟩]
  exact read

end Readings

theorem readBaudRate_eq_ok_iff {r : UInt32} :
    Argument.readBaudRate v = .ok r ↔ Denotes 10 v.toList r.toNat := by
  have fits : r.toNat < UInt32.size := r.toNat_lt
  rw [← and_iff_left (a := Denotes 10 v.toList r.toNat) fits,
    ← read_eq_ok_iff (by decide) (by decide) (by decide)]
  unfold Argument.readBaudRate
  split
  · rename_i n read
    have exact : (UInt32.ofNat n).toNat = n :=
      UInt32.toNat_ofNat_of_lt' ((read_eq_ok_iff (by decide) (by decide) (by decide)).1 read).2
    rw [read, Except.ok.injEq, Except.ok.injEq, ← UInt32.toNat_inj, exact]
  · rename_i unread
    rw [unread]
    exact iff_of_false nofun nofun

/-- The first value of an argument is one of its values. -/
theorem mem_values_of_value? (h : c.value? a = some v) : v ∈ c.values a := List.mem_of_head? h

theorem Checked.admits_value (checked : Checked c) (h : c.value? a = some v) : a.Admits v :=
  checked.admits a v (mem_values_of_value? h)

/-! ### The set-up -/

/-- The value to write is made of the two that are given. -/
theorem immediate?_eq_some_iff {i : Immediate} :
    c.immediate? = some i ↔ ∃ v n, c.value? .writeData = some v ∧ c.value? .writeLength = some n ∧
      Setup.readWord v = .ok i.value ∧ Setup.readCount n = .ok i.length := by
  have both : c.immediate? = some i ↔
      ((c.value? .writeData).bind fun v => (Setup.readWord v).toOption) = some i.value ∧
        ((c.value? .writeLength).bind fun v => (Setup.readCount v).toOption) = some i.length := by
    obtain ⟨value, length⟩ := i
    unfold immediate?
    split
    · rename_i word count
      rw [word, count, Option.some.injEq, Option.some.injEq, Option.some.injEq, Immediate.mk.injEq]
    · rename_i missing
      exact iff_of_false nofun fun given => missing _ _ given.1 given.2
  rw [both, reading_eq_some_iff, reading_eq_some_iff]
  constructor
  · rintro ⟨⟨v, data, word⟩, n, length, count⟩
    exact ⟨v, n, data, length, word, count⟩
  · rintro ⟨v, n, data, length, word, count⟩
    exact ⟨⟨v, data, word⟩, n, length, count⟩

/-- There is a value to write just when one is given. -/
theorem Checked.immediate?_isSome (checked : Checked c) :
    c.immediate?.isSome = (c.value? .writeData).isSome := by
  rw [Bool.eq_iff_iff, Option.isSome_iff_exists, Option.isSome_iff_exists]
  constructor
  · rintro ⟨i, given⟩
    obtain ⟨v, n, data, -⟩ := immediate?_eq_some_iff.1 given
    exact ⟨v, data⟩
  · rintro ⟨v, data⟩
    have together := checked.together
    rw [data, Option.isSome_some, eq_comm, Option.isSome_iff_exists] at together
    obtain ⟨n, length⟩ := together
    obtain ⟨word, readsWord⟩ := checked.admits_value data
    obtain ⟨count, readsCount⟩ := checked.admits_value length
    exact ⟨⟨word, count⟩, immediate?_eq_some_iff.2 ⟨v, n, data, length, readsWord, readsCount⟩⟩

/-- Each choice is taken for the setting that is asked for with it. -/
theorem dataBits_choice : ∀ v ∈ Argument.dataBits.choices, (dataBits (some v)).choice = v := by decide

theorem stopBits_choice : ∀ v ∈ Argument.stopBits.choices, (stopBits (some v)).choice = v := by decide

theorem parity_choice : ∀ v ∈ Argument.parity.choices, (parity (some v)).choice = v := by decide

theorem flowControl_choice : ∀ v ∈ Argument.flowControl.choices, (flowControl (some v)).choice = v := by
  decide

/-- Nothing ever falls back when the set-up is made from a command line that was checked. -/
theorem Checked.takesOver (checked : Checked c) : TakesOver c c.setup := by
  have chosen {a : Argument} {v : String} (given : c.value? a = some v) : a.Admits v :=
    checked.admits_value given
  have written : c.setup.request.writeValue.isSome = (c.value? .writeData).isSome := checked.immediate?_isSome
  have read : c.setup.request.readLength.isSome = (c.value? .readLength).isSome :=
    reading_isSome fun _ given => chosen given
  constructor
  case path | writeFile | jump | skipWait | quiet => rfl
  case address =>
    obtain ⟨v, given⟩ := Option.isSome_iff_exists.1 checked.address
    exact ⟨v, given, reading_getD (fun _ given => chosen given) given⟩
  case baudRate =>
    intro v given
    exact readBaudRate_eq_ok_iff.1 (reading_getD (fun _ given => chosen given) given)
  case dataBits =>
    intro v given
    rw [setup, given]
    exact dataBits_choice v (chosen given)
  case stopBits =>
    intro v given
    rw [setup, given]
    exact stopBits_choice v (chosen given)
  case parity =>
    intro v given
    rw [setup, given]
    exact parity_choice v (chosen given)
  case flowControl =>
    intro v given
    rw [setup, given]
    exact flowControl_choice v (chosen given)
  case writeValue => exact fun i => immediate?_eq_some_iff
  case writeValueGiven => exact ⟨written, written.trans checked.together⟩
  case anyLength =>
    intro n below digits text printed dressed given
    have count : Setup.readCount text = .ok n := Setup.readCount_of_printed below printed dressed
    have writing : c.setup.request.writeValue.isSome = true := by
      rw [written, checked.together, given]
      rfl
    obtain ⟨i, writes⟩ := Option.isSome_iff_exists.1 writing
    obtain ⟨v, text', -, given', -, count'⟩ := immediate?_eq_some_iff.1 writes
    obtain rfl := Option.some.inj (given.symm.trans given')
    rw [writes, Except.ok.inj (count.symm.trans count')]
    rfl
  case readLength => exact fun n => reading_eq_some_iff
  case readLengthGiven => exact read
  case isEmpty =>
    have nothing : c.setup.request.isEmpty =
        ((c.value? .writeFile).isNone && c.setup.request.writeValue.isNone &&
          c.setup.request.readLength.isNone && !c.has .jump) := rfl
    rw [nothing, ← Option.not_isSome, ← Option.not_isSome, ← Option.not_isSome, written, read]
    simp [and_assoc]

/-! ### What the words make -/

theorem values_append (a : Argument) (l l' : List Finding) :
    values a ⟨l ++ l'⟩ = values a ⟨l⟩ ++ values a ⟨l'⟩ :=
  List.filterMap_append

theorem count_append (a : Argument) (l l' : List Finding) :
    count a ⟨l ++ l'⟩ = count a ⟨l⟩ + count a ⟨l'⟩ :=
  List.count_append

theorem mem_values_iff : v ∈ c.values a ↔ Finding.value a v ∈ c.found := by
  unfold values
  rw [List.mem_filterMap]
  constructor
  · rintro ⟨finding, found, is⟩
    cases finding with
    | mention b => cases is
    | value b w =>
      dsimp only at is
      split at is
      · rename_i same
        rw [← same, ← Option.some.inj is]
        exact found
      · cases is
  · intro found
    exact ⟨_, found, if_pos rfl⟩

/-- Each mention of an argument brings one value at most, and only where it takes one. -/
structure Matched (s : Scan) : Prop where
  taken : ∀ a v, Finding.value a v ∈ s.found → a.takesValue = true
  awaited : ∀ a, s.awaiting = some a → a.takesValue = true
  atMost : ∀ a, (values a ⟨s.found⟩).length + (if s.awaiting = some a then 1 else 0) ≤ count a ⟨s.found⟩

theorem matched_start : Matched {} := ⟨nofun, nofun, fun _ => Nat.le_refl 0⟩

/-- What is found next is matched on its own, when nothing is waited for any more. -/
theorem Matched.append (matched : Matched s) (next : Scan) (new : Matched next) :
    Matched { found := s.found ++ next.found, awaiting := next.awaiting } := by
  constructor
  case taken =>
    intro a v found
    exact (List.mem_append.1 found).elim (matched.taken a v) (new.taken a v)
  case awaited => exact new.awaited
  case atMost =>
    intro a
    rw [values_append, count_append, List.length_append]
    have before := matched.atMost a
    have after := new.atMost a
    dsimp only at after ⊢
    omega

theorem Matched.giveUp (matched : Matched s) : Matched { s with awaiting := none } := by
  simpa using matched.append {} matched_start

theorem Matched.mention (matched : Matched s) (a : Argument) (value : Option String) :
    Matched (s.mention a value) := by
  unfold Scan.mention
  split
  · apply matched.append { found := [.mention a] }
    exact ⟨by simp, nofun, by simp [values]⟩
  · rename_i takes
    apply matched.append { found := [.mention a], awaiting := some a }
    refine ⟨by simp, by simpa using takes, fun b => ?_⟩
    by_cases same : a = b <;> simp [values, count, same]
  · rename_i v takes
    apply matched.append { found := [.mention a, .value a v] }
    refine ⟨by simpa using takes, nofun, fun b => ?_⟩
    by_cases same : a = b <;> simp [values, count, same]

/-- The value that was waited for is the one that the last mention allows. -/
theorem Matched.answer {w : String} (matched : Matched s) (awaits : s.awaiting = some a) :
    Matched { found := s.found ++ [.value a w] } := by
  constructor
  case taken =>
    intro b v found
    rcases List.mem_append.1 found with earlier | now
    · exact matched.taken b v earlier
    · obtain ⟨rfl, -⟩ := Finding.value.inj (List.mem_singleton.1 now)
      exact matched.awaited b awaits
  case awaited => exact nofun
  case atMost =>
    intro b
    have before := matched.atMost b
    rw [values_append, count_append, List.length_append]
    rw [awaits] at before
    by_cases same : a = b <;> simp [values, count, same] at before ⊢ <;> omega

theorem Matched.long {word : List Char} {s' : Scan} (matched : Matched s) (read : s.long word = .ok s') :
    Matched s' := by
  unfold Scan.long at read
  dsimp only at read
  split at read
  · obtain rfl := Except.ok.inj read
    exact matched.mention _ _
  · split_ifs at read

theorem Matched.cluster {letters : List Char} {s' : Scan} (matched : Matched s)
    (read : Scan.cluster letters s = .ok s') : Matched s' := by
  fun_induction Scan.cluster letters s with
  | case1 s =>
    obtain rfl := Except.ok.inj read
    exact matched
  | case2 s c rest a named takes =>
    obtain rfl := Except.ok.inj read
    exact matched.mention _ _
  | case3 s c rest a named flag ih => exact ih (matched.mention _ _) read
  | case4 | case5 | case6 => cases read

/-- What was read of the words is matched. -/
theorem Matched.words {ws : List String} {s' : Scan} (matched : Matched s)
    (read : Scan.words ws s = .ok s') : Matched s' := by
  fun_induction Scan.words ws s with
  | case1 s =>
    obtain rfl := Except.ok.inj read
    exact matched
  | case2 =>
    obtain rfl := Except.ok.inj read
    exact matched
  | case3 | case4 | case6 | case9 => cases read
  | case5 _ _ _ _ _ _ _ long ih => exact ih (matched.long long) read
  | case7 _ _ _ _ _ _ _ _ _ letters ih => exact ih (matched.giveUp.cluster letters) read
  | case8 _ _ _ _ awaits _ _ _ ih => exact ih (matched.answer awaits) read

/-! ### What is accepted -/

theorem concerns_of_mem (h : v ∈ c.values a) : c.concerns a = true := by
  have nonempty : c.values a ≠ [] := List.ne_nil_of_mem h
  simp [concerns, nonempty]

/-- What it takes to find nothing wrong with an argument. -/
theorem complaint?_eq_none (h : c.complaint? a = none) :
    (a.takesValue = true → c.values a ≠ []) ∧ (∀ v ∈ c.values a, a.Admits v) ∧
      (∀ b, a.needs? = some b → c.concerns b = true) ∧ (a.isRepeatable = false → c.count a ≤ 1) := by
  unfold complaint? at h
  split at h
  · cases h
  · rename_i given
    split at h
    · cases h
    · rename_i admitted
      split at h
      · cases h
      · rename_i accompanied
        refine ⟨by simpa using given, fun v hv => ?_, by simpa using accompanied, fun once => ?_⟩
        · exact valueComplaint?_eq_none_iff.1 (List.findSome?_eq_none_iff.1 admitted v hv)
        · split at h
          · cases h
          · rename_i few
            rw [once] at few
            simpa using few

theorem mem_all (a : Argument) : a ∈ Argument.all := by
  cases a <;> decide

/-- What it takes to be accepted. -/
theorem ofScan_ok (h : ofScan s = .ok c) :
    c = withPresets ⟨s.found⟩ ∧ c.has .address = true ∧
      ∀ a, c.concerns a = true → c.complaint? a = none := by
  unfold ofScan at h
  dsimp only at h
  split at h
  · cases h
  · rename_i address
    split at h
    · cases h
    · split at h
      · cases h
      · rename_i clean
        obtain rfl := Except.ok.inj h
        refine ⟨rfl, by simpa using address, fun a plays => ?_⟩
        have fine := List.findSome?_eq_none_iff.1 clean a (mem_all a)
        rwa [if_pos plays] at fine

/-- What is accepted was checked. -/
theorem checked_of_ofScan (h : ofScan s = .ok c) : Checked c := by
  obtain ⟨-, address, clean⟩ := ofScan_ok h
  have given {a : Argument} (takes : a.takesValue = true) (plays : c.concerns a = true) :
      (c.value? a).isSome = true := by
    have nonempty := (complaint?_eq_none (clean a plays)).1 takes
    rwa [value?, Option.isSome_iff_ne_none, Ne, List.head?_eq_none_iff]
  have comes {a b : Argument} (needs : a.needs? = some b) (takes : b.takesValue = true)
      (given' : (c.value? a).isSome = true) : (c.value? b).isSome = true := by
    obtain ⟨v, value⟩ := Option.isSome_iff_exists.1 given'
    have plays := concerns_of_mem (mem_values_of_value? value)
    exact given takes ((complaint?_eq_none (clean a plays)).2.2.1 b needs)
  constructor
  case address => exact given rfl (by rw [concerns, address, Bool.true_or])
  case together => exact Bool.eq_iff_iff.2 ⟨comes rfl rfl, comes rfl rfl⟩
  case admits =>
    intro a v value
    exact (complaint?_eq_none (clean a (concerns_of_mem value))).2.1 v value

theorem isRepeatable_of_takesValue (h : a.takesValue = true) : a.isRepeatable = false := by
  cases a with
  | verbose => cases h
  | _ => rfl

/-- A value that was found is the one that its argument has. -/
theorem value?_of_found (matched : Matched s) (h : ofScan s = .ok c) (found : Finding.value a v ∈ s.found) :
    c.value? a = some v := by
  obtain ⟨rfl, -, clean⟩ := ofScan_ok h
  have among : v ∈ values a ⟨s.found⟩ := mem_values_iff.2 found
  have kept : v ∈ (withPresets ⟨s.found⟩).values a := by
    rw [withPresets, values_append]
    exact List.mem_append_left _ among
  -- What takes a value may be mentioned once only, and the presets stand behind all that was found.
  have once := (complaint?_eq_none (clean a (concerns_of_mem kept))).2.2.2
    (isRepeatable_of_takesValue (matched.taken a v found))
  rw [withPresets, count_append] at once
  have atMost := matched.atMost a
  have atLeast := List.length_pos_of_mem among
  dsimp only at once
  obtain ⟨w, sole⟩ := List.length_eq_one_iff.1 (show (values a ⟨s.found⟩).length = 1 by omega)
  obtain rfl := List.mem_singleton.1 (sole ▸ among)
  rw [value?, withPresets, values_append, sole]
  rfl

/-- No value that is given is ever replaced: whatever command line was checked, the set-up takes over all that
it gives, and the words that are accepted make such a command line, with each value that they bring. -/
theorem given_values_are_taken_over :
    (∀ c, Checked c → TakesOver c c.setup) ∧
      ∀ ws c, parse ws = .ok c → Checked c ∧ ∃ s, Scan.words ws {} = .ok s ∧
        ∀ a v, Finding.value a v ∈ s.found → c.value? a = some v := by
  refine ⟨fun c checked => checked.takesOver, fun ws c accepted => ?_⟩
  unfold parse at accepted
  split at accepted
  · cases accepted
  · rename_i s read
    have matched : Matched s := matched_start.words read
    exact ⟨checked_of_ofScan accepted, s, read, fun a v found => value?_of_found matched accepted found⟩

/-- A length that no value has, behind an address with an underscore. -/
theorem given_values_are_taken_over_long :
    ∃ c, parse ["-a", "0xFF_00", "--wdata=1f", "--wlen", "18446744073709551615", "-b9600"] = .ok c ∧
      TakesOver c c.setup ∧ c.value? .writeLength = some "18446744073709551615" ∧
      c.setup.request.writeValue = some ⟨31, 18446744073709551615⟩ ∧ c.setup.address = 65280 ∧
      c.setup.baudRate = 9600 := by
  have accepted : parse ["-a", "0xFF_00", "--wdata=1f", "--wlen", "18446744073709551615", "-b9600"] = .ok
      ⟨[.mention .address, .value .address "0xFF_00", .mention .writeData, .value .writeData "1f",
        .mention .writeLength, .value .writeLength "18446744073709551615", .mention .baudRate,
        .value .baudRate "9600", .value .dataBits "8", .value .stopBits "1", .value .parity "none",
        .value .flowControl "none"]⟩ := by
    rfl
  have checked := (given_values_are_taken_over.2 _ _ accepted).1
  refine ⟨_, accepted, given_values_are_taken_over.1 _ checked, ?_⟩
  decide +kernel

end CommandLine

end Console

end BootHost
