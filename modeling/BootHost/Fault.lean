import BootHost.Fault.Device
import BootHost.Protocol

/-!
# Faults

Why an operation of the host did not complete. Every fault belongs to one of three classes:
transport faults come from the line or from the data to write, protocol faults from a board that
does not answer as it should or a write that stops half-way, and usage faults are found before
anything is sent. `message` is the one place where faults are put into words.
-/

namespace BootHost

/-- The three classes of faults. -/
inductive FaultClass where
  | transport
  | protocol
  | usage
  deriving DecidableEq

/-- Why an operation did not complete. -/
inductive Fault where
  /-- The line failed to carry bytes in either direction. -/
  | transport (cause : DeviceFault)
  /-- The serial port could not be opened or configured. -/
  | serial (text : String)
  /-- The file to write could not be opened. -/
  | source (path : String) (cause : DeviceFault)
  /-- Reading the data to write failed midway. -/
  | input (cause : DeviceFault)
  /-- The board answered with something else than an acknowledgment. -/
  | refused (stage : Stage) (answer : Answer)
  /-- An immediate value of this many bytes cannot be written. -/
  | immediateLength (length : Nat)
  /-- A payload is not as long as it was declared to be. -/
  | lengthMismatch (declared : UInt32) (actual : Nat)
  /-- A payload is too long for the length field. -/
  | payloadTooLarge (length : Nat)
  /-- A write would run past the last address. -/
  | addressOverflow (address : UInt64) (length : Nat)
  /-- Earlier writes ended on the last address, so there is none left. -/
  | endOfAddressSpace
  /-- A write stopped after some of it was acknowledged. -/
  | partialWrite (written : Nat) (cause : Fault)
  /-- The connection is in another phase than the call needs. -/
  | wrongPhase (expected actual : Phase)
  /-- A text is no number of the kind that was asked for. -/
  | notANumber (text : String)
  deriving DecidableEq

namespace Fault

/-- The class of a fault. -/
def kind : Fault → FaultClass
  | .transport _ | .serial _ | .source .. | .input _ => .transport
  | .refused .. | .partialWrite .. => .protocol
  | .immediateLength _ | .lengthMismatch .. | .payloadTooLarge _ | .addressOverflow ..
  | .endOfAddressSpace | .wrongPhase .. | .notANumber _ => .usage

/-- A fault in words. -/
def message : Fault → String
  | .transport cause => "transport failure: " ++ cause.text
  | .serial text => "serial port error: " ++ text
  | .source path cause => "cannot open `" ++ path ++ "`: " ++ cause.text
  | .input cause => "cannot read the data to write: " ++ cause.text
  | .refused stage answer =>
    "unexpected response " ++ answer.text ++ " from DUT during " ++ stage.text
  | .immediateLength length =>
    "immediate write length " ++ toString length ++
      " is not allowed, use 1 to 8 bytes or write from a file"
  | .lengthMismatch declared actual =>
    "payload of " ++ toString actual ++ " bytes does not match the declared length " ++
      toString declared.toNat
  | .payloadTooLarge length =>
    "payload of " ++ toString length ++ " bytes does not fit the 32-bit length field"
  | .addressOverflow address length =>
    "writing " ++ toString length ++ " bytes at " ++ Text.Hex.marked address.toNat ++
      " runs past the end of the address space"
  | .endOfAddressSpace => "the address space is exhausted"
  | .partialWrite written cause =>
    "write stopped after " ++ toString written ++ " acknowledged bytes: " ++ cause.message
  | .wrongPhase expected actual =>
    "link is " ++ actual.text ++ ", expected " ++ expected.text
  | .notANumber text => "`" ++ text ++ "` is not a valid number"

/-- What lies behind a fault, in words, where something does. -/
def cause? : Fault → Option String
  | .transport cause => some cause.text
  | .serial text => some text
  | .source _ cause => some cause.text
  | .partialWrite _ cause => some cause.message
  | _ => none

/-- A usage fault, found before anything is sent. -/
def isUsage (f : Fault) : Bool := f.kind == .usage

end Fault

end BootHost
