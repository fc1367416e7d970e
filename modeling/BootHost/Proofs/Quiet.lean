import BootHost.Console.Program
import BootHost.Port.Queued
import BootHost.Proofs.Conversation.Request
import Mathlib.Data.List.Forall2

/-!
# What a quiet run prints

At the verbosity of a quiet call every note is either hidden or goes to the standard error stream, so
standard output holds the results and nothing else. Once the board has been greeted, these are the
blocks that were read, one line for each, whatever else becomes of the run; and a line reads back, pair
by pair, as the block that came over the wire. A greeting that fails has a line of its own, quiet or not.
-/

namespace BootHost

namespace Text.Hex

/-- The value of a digit, which must be in lower case. -/
def value? (c : Char) : Option Nat :=
  if '0' ≤ c ∧ c ≤ '9' then some (c.toNat - '0'.toNat)
  else if 'a' ≤ c ∧ c ≤ 'f' then some (c.toNat - 'a'.toNat + 10)
  else none

/-- Reads digits back, pair by pair. -/
def readPairs : List Char → Option Bytes
  | [] => some []
  | [_] => none
  | high :: low :: rest =>
    match value? high, value? low, readPairs rest with
    | some h, some l, some bytes => some (UInt8.ofNat (16 * h + l) :: bytes)
    | _, _, _ => none

/-- The line has two digits for each byte, and reads back as the bytes. -/
structure Spells (line : String) (bytes : Bytes) : Prop where
  length : line.length = 2 * bytes.length
  reads : readPairs line.toList = some bytes

theorem value?_digitChar {n : Nat} (h : n < 16) : value? (Nat.digitChar n) = some n := by
  revert n
  decide

theorem readPairs_flatMap_pair (bytes : Bytes) : readPairs (bytes.flatMap pair) = some bytes := by
  induction bytes with
  | nil => rfl
  | cons b bytes ih =>
    obtain ⟨h, l, digits, high, low, value⟩ := exists_pair_eq b
    rw [List.flatMap_cons, digits, List.cons_append, List.cons_append, List.nil_append, readPairs,
      value?_digitChar high, value?_digitChar low, ih]
    dsimp only
    rw [value]

theorem length_flatMap_pair (bytes : Bytes) : (bytes.flatMap pair).length = 2 * bytes.length := by
  induction bytes with
  | nil => rfl
  | cons b bytes ih =>
    rw [List.flatMap_cons, List.length_append, length_pair, ih, List.length_cons]
    omega

/-- Every run of bytes is spelled by its digits. -/
theorem spells_ofBytes (bytes : Bytes) : Spells (ofBytes bytes) bytes where
  length := by
    rw [ofBytes, String.length_ofList]
    exact length_flatMap_pair bytes
  reads := by
    rw [ofBytes, String.toList_ofList]
    exact readPairs_flatMap_pair bytes

end Text.Hex

namespace Console

/-- At the gravest verbosity no note goes to standard output. -/
@[simp] theorem Item.printed?_error_note (n : Note) : printed? .error (.note n) = none := by
  cases h : n.level <;> simp [printed?, Note.isWithin, h, Level.rank]

@[simp] theorem Item.printed?_result (verbosity : Level) (text : String) :
    printed? verbosity (.result text) = some (.text text) := rfl

theorem printed_notes (notes : List Note) : (notes.map Item.note).filterMap (Item.printed? .error) = [] := by
  simp

theorem printed_portItems (s : Setup) (path : String) :
    (portItems s path).filterMap (Item.printed? .error) = [] := by
  simp [portItems]

/-- Of a report a quiet run shows what was read. -/
theorem printed_showReport (r : Report) :
    (showReport true r).filterMap (Item.printed? .error) =
      r.readings.map fun reading => .text (Text.Hex.ofBytes reading.2) := by
  obtain ⟨entries⟩ := r
  induction entries with
  | nil => rfl
  | cons entry entries ih =>
    rw [Report.readings_cons, List.map_append, ← ih]
    obtain ⟨operation, outcome⟩ := entry
    cases outcome <;> simp [showReport, showOutcome, Outcome.reading?]

variable {σ : Type} [Port σ]

/-- What a run over an open port prints to standard output, at the verbosity of a quiet call. -/
def quietOutput (storage : Storage) (s : Setup) (path : String) (port : σ) : List Printed :=
  ({ runOver storage s path port with verbosity := .error } : Call σ).transcript.out

variable {storage : Storage} {s : Setup} {path : String} {port : σ}

/-- A quiet run prints what is shown of its result. -/
theorem quietOutput_eq (quiet : s.quiet = true) :
    quietOutput storage s path port =
      (showResult true ((Connection.ofPort port).run storage s).1).2.filterMap (Item.printed? .error) := by
  unfold quietOutput runOver Call.transcript
  rw [quiet]
  dsimp only
  rw [List.filterMap_append, List.filterMap_append, printed_portItems, printed_notes]
  rfl

theorem quietOutput_of_connect_error {e : Fault} {conn : Connection σ} (quiet : s.quiet = true)
    (failed : (Connection.ofPort port).connect (.ofSkipWait s.skipWait) = (.error e, conn)) :
    quietOutput storage s path port = [.text "[BB] 💥 Could not connect to the DUT!"] := by
  rw [quietOutput_eq quiet, Connection.run_of_connect_error failed]
  rfl

theorem quietOutput_of_report {report : Report} {ended : Connection σ} (quiet : s.quiet = true)
    (run : (Connection.ofPort port).run storage s = (.ok report, ended)) :
    quietOutput storage s path port = report.readings.map fun reading => .text (Text.Hex.ofBytes reading.2) := by
  rw [quietOutput_eq quiet, run]
  exact printed_showReport report

/-- A quiet call of the program prints what its run prints. -/
theorem out_program {ports : Option String → Except Fault (String × σ)} {words : List String} {c : CommandLine}
    (parsed : CommandLine.parse words = .ok c) (quiet : c.setup.quiet = true)
    (asked : c.setup.request.isEmpty = false) (opened : ports c.setup.path = .ok (path, port)) :
    (program storage ports words).transcript.out = quietOutput storage c.setup path port := by
  have gravest : c.verbosity = .error := if_pos quiet
  unfold program
  rw [parsed]
  dsimp only
  rw [asked, runWith, opened, gravest]
  simp [quietOutput, Call.transcript]

/-- A quiet run prints a line for each block that was read, and nothing else, once the board has been
greeted; and what was read is what the board answered. If the board cannot be greeted, that is printed. -/
theorem quiet_run_prints_readings (storage : Storage) {s : Setup} (quiet : s.quiet = true) (path : String)
    (port : σ) :
    (∀ conn, (Connection.ofPort port).connect (.ofSkipWait s.skipWait) = (.ok (), conn) →
      ∃ report ended plan answers complete, (Connection.ofPort port).run storage s = (.ok report, ended) ∧
        Conversation plan answers complete conn.line.wire ended.line.wire ∧
        Command.readings plan answers = report.readings ∧
        ∃ lines, quietOutput storage s path port = lines.map Printed.text ∧
          List.Forall₂ (fun line reading => Text.Hex.Spells line reading.2) lines report.readings) ∧
    (∀ e conn, (Connection.ofPort port).connect (.ofSkipWait s.skipWait) = (.error e, conn) →
      quietOutput storage s path port = [.text "[BB] 💥 Could not connect to the DUT!"]) ∧
    ∀ ports words c, CommandLine.parse words = .ok c → c.setup = s → s.request.isEmpty = false →
      ports s.path = .ok (path, port) →
      (program storage ports words).transcript.out = quietOutput storage s path port := by
  refine ⟨?_, ?_, ?_⟩
  · intro conn connected
    obtain ⟨report, ended, plan, answers, complete, run, conversation, reads, -⟩ :=
      Connection.run_converses storage connected
    refine ⟨report, ended, plan, answers, complete, run, conversation, reads,
      report.readings.map fun reading => Text.Hex.ofBytes reading.2, ?_, ?_⟩
    · rw [quietOutput_of_report quiet run, List.map_map]
      rfl
    · rw [List.forall₂_map_left_iff, List.forall₂_same]
      intro reading _
      exact Text.Hex.spells_ofBytes reading.2
  · intro e conn failed
    exact quietOutput_of_connect_error quiet failed
  · rintro ports words c parsed rfl asked opened
    exact out_program parsed quiet asked opened

/-- A quiet read of three bytes from a board that is awake. -/
def quietRead : Setup where
  skipWait := true
  quiet := true
  request := { readLength := some 3 }

/-- A board that answers the greeting and sends three bytes. -/
def readableBoard : Queued := { incoming := [Protocol.ack, 0xF0, 0xF1, 0xF2] }

/-- Three bytes that were read are one line. -/
theorem quiet_run_prints_readings_of_readable_board :
    ∃ line, quietOutput (fun _ => .error .notFound) quietRead "tty" readableBoard = [.text line] ∧
      Text.Hex.Spells line [0xF0, 0xF1, 0xF2] := by
  have connected : (Connection.ofPort readableBoard).connect (.ofSkipWait quietRead.skipWait) =
      (.ok (), ((Connection.ofPort readableBoard).connect (.ofSkipWait quietRead.skipWait)).2) :=
    Prod.ext (by decide +kernel) rfl
  obtain ⟨report, ended, -, -, -, run, -, -, lines, out, spelled⟩ :=
    (quiet_run_prints_readings (fun _ => .error .notFound) (s := quietRead) rfl "tty" readableBoard).1 _ connected
  have heard : ((Connection.ofPort readableBoard).run (fun _ => .error .notFound) quietRead).1.toOption.map
      Report.readings = some [(0, [0xF0, 0xF1, 0xF2])] := by decide +kernel
  rw [run] at heard
  rw [Option.some.inj heard] at spelled
  cases spelled with
  | cons spells none =>
    cases none
    exact ⟨_, out, spells⟩

/-- A quiet jump on a board that gets ready and refuses the greeting: nothing is read, and still there is
something on standard output. -/
theorem quiet_run_prints_refused_greeting :
    ∃ s : Setup, ∃ port : Queued, s.quiet = true ∧ s.request.isEmpty = false ∧
      ((Connection.ofPort port).connect (.ofSkipWait s.skipWait)).1 = .error (.refused .nock .nack) ∧
      ((Connection.ofPort port).run (fun _ => .error .notFound) s).1.toOption.map Report.readings = none ∧
      quietOutput (fun _ => .error .notFound) s "tty" port ≠ [] := by
  let s : Setup := { address := 0x1000, quiet := true, request := { jump := true } }
  let port : Queued := { incoming := [Protocol.ready, Protocol.nack] }
  have refused : ((Connection.ofPort port).connect (.ofSkipWait s.skipWait)).1 = .error (.refused .nock .nack) := by
    decide +kernel
  have failed : (Connection.ofPort port).connect (.ofSkipWait s.skipWait) =
      (.error (.refused .nock .nack), ((Connection.ofPort port).connect (.ofSkipWait s.skipWait)).2) :=
    Prod.ext refused rfl
  refine ⟨s, port, rfl, rfl, refused, ?_, ?_⟩
  · rw [Connection.run_of_connect_error failed]
    rfl
  · rw [quietOutput_of_connect_error rfl failed]
    exact List.cons_ne_nil _ _

end Console

end BootHost
