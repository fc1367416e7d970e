import BootHost.Line.Transfer

/-!
# The greeting

The host listens, one byte at a time, until the board says that it is ready, and drops everything
else. It then sends the magic once and waits for the answer. Ready bytes that are still on their
way are skipped; the first other byte is the answer, and only an acknowledgment will do. When the
board is known to be awake, the host starts with the magic.
-/

namespace BootHost

/-- Where the greeting begins. -/
inductive Start where
  /-- Wait for the board's ready byte. -/
  | awaitBoard
  /-- The board is awake, send the magic right away. -/
  | nock
  deriving DecidableEq

namespace Start

/-- The start of a run that does or does not skip the wait. -/
def ofSkipWait (skip : Bool) : Start := if skip then .nock else .awaitBoard

/-- The phase in which the greeting begins. -/
def phase : Start → Phase
  | .awaitBoard => .awaitingBoard
  | .nock => .nocking

end Start

namespace Line

variable {σ : Type} [Port σ]

/-- Reads up to the ready byte; the result is how many bytes were dropped before it. -/
def awaitReady (dropped : Nat) (l : Line σ) : Except DeviceFault Nat × Line σ :=
  match _h : l.receiveByte with
  | (.ok b, l') =>
    if b = Protocol.ready then (.ok dropped, l'.note .found)
    else awaitReady (dropped + 1) (l'.note (.ignored b))
  | (.error e, l') => (.error e, l')
termination_by l.budget
decreasing_by exact show l'.budget < l.budget from budget_receiveByte_lt _h

/-- Reads up to the first byte that is not the ready byte; the result is that byte and how many
ready bytes came before it. -/
def awaitAnswer (skipped : Nat) (l : Line σ) : Except DeviceFault (UInt8 × Nat) × Line σ :=
  match _h : l.receiveByte with
  | (.ok b, l') =>
    if b = Protocol.ready then awaitAnswer (skipped + 1) l' else (.ok (b, skipped), l')
  | (.error e, l') => (.error e, l')
termination_by l.budget
decreasing_by exact budget_receiveByte_lt _h

/-- Notes that bytes were dropped before the ready byte, if there were any. -/
def noteStray (dropped : Nat) (l : Line σ) : Line σ :=
  if 0 < dropped then l.note (.stray dropped) else l

/-- Sends the magic and waits for its acknowledgment. -/
def nock (dropped : Nat) (l : Line σ) : Except Fault Unit × Line σ :=
  match (((l.note .nocking).noteStray dropped).note .greeting).send Protocol.magic with
  | (.error e, l') => (.error (.transport e), l')
  | (.ok (), l') =>
    match l'.awaitAnswer 0 with
    | (.error e, l'') => (.error (.transport e), l'')
    | (.ok (b, skipped), l'') =>
      if b = Protocol.ack then (.ok (), l''.note (.trailing skipped))
      else (.error (.refused .nock (.ofByte b)), l'')

/-- Greets the board. -/
def greet (start : Start) (l : Line σ) : Except Fault Unit × Line σ :=
  match start with
  | .nock => l.nock 0
  | .awaitBoard =>
    match ((l.note .awaiting).note .listening).awaitReady 0 with
    | (.error e, l') => (.error (.transport e), l')
    | (.ok dropped, l') => l'.nock dropped

end Line

end BootHost
