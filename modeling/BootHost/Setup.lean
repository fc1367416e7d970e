import BootHost.Operation

/-!
# Set-ups

How the serial port is set up, and what is asked of the board once it is connected. The requested
operations always run in the same order, which `Request.actions` lists.
-/

namespace BootHost

/-- Bits that represent a character on the line. -/
inductive DataBits where
  | five
  | six
  | seven
  | eight
  deriving DecidableEq

/-- The name of a number of data bits. -/
def DataBits.name : DataBits → String
  | .five => "Five"
  | .six => "Six"
  | .seven => "Seven"
  | .eight => "Eight"

/-- How transfers are held back. -/
inductive FlowControl where
  | none
  | software
  | hardware
  deriving DecidableEq

/-- The name of a kind of flow control. -/
def FlowControl.name : FlowControl → String
  | .none => "None"
  | .software => "Software"
  | .hardware => "Hardware"

/-- How characters are checked. -/
inductive Parity where
  | none
  | odd
  | even
  deriving DecidableEq

/-- The name of a parity. -/
def Parity.name : Parity → String
  | .none => "None"
  | .odd => "Odd"
  | .even => "Even"

/-- Bits that end a character on the line. -/
inductive StopBits where
  | one
  | two
  deriving DecidableEq

/-- The name of a number of stop bits. -/
def StopBits.name : StopBits → String
  | .one => "One"
  | .two => "Two"

/-- A value whose low-order bytes are written with one command. -/
structure Immediate where
  value : UInt64
  length : Nat
  deriving DecidableEq

/-- One operation with what it needs. -/
inductive Action where
  | writeFile (path : String)
  | writeValue (immediate : Immediate)
  | read (length : UInt32)
  | jump
  deriving DecidableEq

/-- The kind of an action. -/
def Action.operation : Action → Operation
  | .writeFile _ => .writeFile
  | .writeValue _ => .writeValue
  | .read _ => .read
  | .jump => .jump

/-- The operations that are asked for. -/
structure Request where
  /-- The file whose content is written. -/
  writeFile : Option String := none
  /-- The value that is written. -/
  writeValue : Option Immediate := none
  /-- The number of bytes that are read back. -/
  readLength : Option UInt32 := none
  /-- Whether the board is to jump at the end. -/
  jump : Bool := false
  deriving DecidableEq

namespace Request

/-- The requested actions in the order in which they run. -/
def actions (r : Request) : List Action :=
  (r.writeFile.map Action.writeFile).toList ++ (r.writeValue.map Action.writeValue).toList ++
    (r.readLength.map Action.read).toList ++ (if r.jump then [.jump] else [])

/-- Nothing is asked for. -/
def isEmpty (r : Request) : Bool :=
  r.writeFile.isNone && r.writeValue.isNone && r.readLength.isNone && !r.jump

end Request

/-- The whole set-up of one run. -/
structure Setup where
  /-- The path of the port. -/
  path : Option String := none
  /-- Symbols per second. -/
  baudRate : UInt32 := 115200
  dataBits : DataBits := .eight
  flowControl : FlowControl := .none
  parity : Parity := .none
  stopBits : StopBits := .one
  /-- How many milliseconds one read of the port waits before it is made again. -/
  timeout : Nat := 100
  /-- The address at which the operations start. -/
  address : UInt64 := 0
  /-- The board is known to be awake. -/
  skipWait : Bool := false
  /-- Only what was read is shown. -/
  quiet : Bool := false
  request : Request := {}
  deriving DecidableEq

end BootHost
