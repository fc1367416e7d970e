import BootHost.Command
import BootHost.Operation
import BootHost.Text.HexView

/-!
# The journal

What the host tells about its work while it does it. A `Note` says what happened; its level says
how much it matters and its text puts it into words. Notes are data, so that a note that nobody
asked for costs nothing but its place: in particular the hex view of a frame is drawn only when
the note is read.
-/

namespace BootHost

/-- How much a note matters, the gravest first. -/
inductive Level where
  | error
  | warn
  | info
  | debug
  | trace
  deriving DecidableEq

namespace Level

/-- The place of a level, from the gravest on. -/
def rank : Level → Nat
  | .error => 0
  | .warn => 1
  | .info => 2
  | .debug => 3
  | .trace => 4

/-- The name of a level. -/
def name : Level → String
  | .error => "ERROR"
  | .warn => "WARN"
  | .info => "INFO"
  | .debug => "DEBUG"
  | .trace => "TRACE"

end Level

/-- Something that the host did or noticed. -/
inductive Note where
  /-- The line took some bytes. -/
  | accepted (count : Nat)
  /-- The line delivered some bytes. -/
  | received (count : Nat)
  /-- The host begins to wait for the board. -/
  | awaiting
  /-- The host listens. -/
  | listening
  /-- A byte that is not the ready byte came while the host waited. -/
  | ignored (byte : UInt8)
  /-- The ready byte came. -/
  | found
  /-- The host begins to greet the board. -/
  | nocking
  /-- Bytes were dropped before the ready byte came. -/
  | stray (count : Nat)
  /-- The greeting goes out. -/
  | greeting
  /-- Ready bytes came between the greeting and its answer. -/
  | trailing (count : Nat)
  /-- The greeting was answered and the run goes on. -/
  | connected
  /-- A chunk is about to be written. -/
  | writing (address : UInt64) (length : Nat)
  /-- A value is about to be written. -/
  | writingValue (address value : UInt64) (length : Nat)
  /-- A block is about to be read. -/
  | reading (address : UInt64) (length : UInt32)
  /-- The jump is about to be made. -/
  | jumping (address : UInt64)
  /-- A command is about to be sent. -/
  | sending (tag : Tag) (payload : Nat)
  /-- The bytes of a command. -/
  | frame (bytes : Bytes)
  /-- All of a read came back. -/
  | fetched (count : Nat)
  /-- An operation is complete. -/
  | done
  /-- An operation was refused before anything was sent. -/
  | skipped (operation : Operation) (fault : Fault)
  /-- An operation failed. -/
  | failed (operation : Operation) (fault : Fault)
  /-- Where the cursor stands at the end of a run. -/
  | cursorEnded (cursor : Option UInt64)
  /-- The run could not begin. -/
  | gaveUp (fault : Fault)
  /-- The set-up of a run, written out. -/
  | setup (text : String)
  /-- An attempt to open the port. -/
  | opening (attempt : Nat)
  /-- The port is open. -/
  | opened (path : String) (baudRate : UInt32)
  /-- One setting of the open port. -/
  | lineSetting (name value : String)
  /-- What was read is about to be shown. -/
  | result
  /-- The exit status of the program. -/
  | exitCode (code : Nat)

namespace Note

/-- How much a note matters. -/
def level : Note → Level
  | .failed .. | .gaveUp _ => .error
  | .skipped .. => .warn
  | .awaiting | .listening | .found | .nocking | .greeting | .connected | .writing ..
  | .writingValue .. | .reading .. | .jumping _ | .done | .opened .. | .result => .info
  | .stray _ | .trailing _ | .sending .. | .fetched _ | .cursorEnded _ | .setup _ | .opening _
  | .lineSetting .. | .exitCode _ => .debug
  | .accepted _ | .received _ | .ignored _ | .frame _ => .trace

/-- A cursor in words. -/
def cursorText : Option UInt64 → String
  | none => "None"
  | some address => "Some(" ++ Text.Hex.digits address.toNat ++ ")"

/-- A note in words. -/
def text : Note → String
  | .accepted count => toString count ++ " bytes written to the link"
  | .received count => toString count ++ " bytes read from the link"
  | .awaiting => "=> AwaitingDut"
  | .listening => "Waiting for DUT..."
  | .ignored byte => "ignoring " ++ Text.Hex.markedByte byte ++ " while waiting for the DUT"
  | .found => "DUT found!"
  | .nocking => "=> Nocking"
  | .stray count => toString count ++ " stray bytes dropped before the DUT was ready"
  | .greeting => "Trying to nock..."
  | .trailing count => toString count ++ " ready bytes received after the magic"
  | .connected => "Connected to DUT!"
  | .writing address length =>
    "write " ++ Text.Hex.marked address.toNat ++ ", len " ++ toString length ++ "..."
  | .writingValue address value length =>
    "write " ++ Text.Hex.marked address.toNat ++ "=" ++ Text.Hex.marked value.toNat ++ ", len " ++
      toString length ++ "..."
  | .reading address length =>
    "read " ++ Text.Hex.marked address.toNat ++ ", len " ++ toString length.toNat ++ "..."
  | .jumping address => "jump " ++ Text.Hex.marked address.toNat ++ "..."
  | .sending tag payload =>
    "sending " ++ tag.name ++ " frame, " ++ toString payload ++ " payload bytes"
  | .frame bytes => "\n" ++ Text.HexView.render 0 bytes
  | .fetched count => toString count ++ " bytes read"
  | .done => "OK"
  | .skipped operation fault => operation.text ++ " skipped: " ++ fault.message
  | .failed operation fault => operation.text ++ " failed: " ++ fault.message
  | .cursorEnded cursor => "cursor ended at " ++ cursorText cursor
  | .gaveUp fault => fault.message
  | .setup text => text
  | .opening attempt => "Trying to connect " ++ toString attempt
  | .opened path baudRate =>
    "Connected to " ++ path ++ " at " ++ toString baudRate.toNat ++ " baud"
  | .lineSetting name value =>
    name ++ String.ofList (List.replicate (12 - name.length) ' ') ++ " : " ++ value
  | .result => "read result:"
  | .exitCode code => "exit code: " ++ toString code

/-- The note matters to a reader who asks for `threshold` and graver. -/
def isWithin (threshold : Level) (n : Note) : Bool :=
  decide (n.level.rank ≤ threshold.rank)

end Note

end BootHost
