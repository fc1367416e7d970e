import BootHost.Line.Transfer

/-!
# Exchanges

One command and its answer. A command goes out as a whole before its answer is read, and the
answer is read to its end before anything else goes out: one byte for a write or a jump, which
must be an acknowledgment, and the block itself for a read.
-/

namespace BootHost.Line

variable {σ : Type} [Port σ]

/-- Sends a command. -/
def issue (c : Command) (l : Line σ) : Except Fault Unit × Line σ :=
  match ((l.note (.sending c.tag c.payload.length)).note (.frame c.encode)).send c.encode with
  | (.ok (), l') => (.ok (), l')
  | (.error e, l') => (.error (.transport e), l')

/-- Reads one answer, which must be an acknowledgment. -/
def awaitAck (stage : Stage) (l : Line σ) : Except Fault Unit × Line σ :=
  match l.receiveByte with
  | (.error e, l') => (.error (.transport e), l')
  | (.ok b, l') =>
    if b = Protocol.ack then (.ok (), l') else (.error (.refused stage (.ofByte b)), l')

/-- Sends a command and waits until it is acknowledged. -/
def command (c : Command) (stage : Stage) (l : Line σ) : Except Fault Unit × Line σ :=
  match l.issue c with
  | (.error e, l') => (.error e, l')
  | (.ok (), l') => l'.awaitAck stage

/-- Asks for a block of memory and waits for all of it. -/
def fetch (length : UInt32) (address : UInt64) (l : Line σ) : Except Fault Bytes × Line σ :=
  match l.issue (.readBlock length address) with
  | (.error e, l') => (.error e, l')
  | (.ok (), l') =>
    match l'.receive length.toNat with
    | (.error e, l'') => (.error (.transport e), l'')
    | (.ok bytes, l'') => (.ok bytes, l''.note (.fetched bytes.length))

end BootHost.Line
