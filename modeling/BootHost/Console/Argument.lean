import BootHost.Setup.Number

/-!
# Arguments

What can stand on the command line. An argument that takes a value has a placeholder, by which
complaints name it, and says which values it admits: some list their choices, others try to read
the value and pass on what is wrong with it.
-/

namespace BootHost.Console

/-- The arguments of the program. -/
inductive Argument where
  | address
  | writeFile
  | writeData
  | writeLength
  | readLength
  | jump
  | noWait
  | quiet
  | device
  | baudRate
  | dataBits
  | stopBits
  | parity
  | flowControl
  | verbose
  deriving DecidableEq

namespace Argument

/-- All arguments, in the order in which they are checked. -/
def all : List Argument :=
  [.address, .writeFile, .writeData, .writeLength, .readLength, .jump, .noWait, .quiet, .device,
    .baudRate, .dataBits, .stopBits, .parity, .flowControl, .verbose]

/-- The names behind two dashes; the first one is shown. -/
def longNames : Argument → List String
  | .address => ["addr"]
  | .writeFile => ["wfile"]
  | .writeData => ["wdata"]
  | .writeLength => ["wlen"]
  | .readLength => ["rlen"]
  | .jump => ["jump"]
  | .noWait => ["no-wait", "no_wait"]
  | .quiet => ["quiet"]
  | .device => ["tty"]
  | .baudRate => ["baud-rate"]
  | .dataBits => ["data-bits"]
  | .stopBits => ["stop-bits"]
  | .parity => ["parity"]
  | .flowControl => ["flow-control"]
  | .verbose => []

/-- The letter behind one dash. -/
def letter? : Argument → Option Char
  | .address => some 'a'
  | .quiet => some 'q'
  | .device => some 't'
  | .baudRate => some 'b'
  | .dataBits => some 'd'
  | .stopBits => some 's'
  | .parity => some 'p'
  | .flowControl => some 'f'
  | .verbose => some 'v'
  | _ => none

/-- What stands for the value of an argument that takes one. -/
def placeholder? : Argument → Option String
  | .address => some "ADDRESS"
  | .writeFile => some "WRITE_FILE"
  | .writeData => some "WRITE_DATA"
  | .writeLength => some "WRITE_LEN"
  | .readLength => some "READ_LEN"
  | .device => some "DEVICE_TTY"
  | .baudRate => some "BAUD_RATE"
  | .dataBits => some "DATA_BITS"
  | .stopBits => some "STOP_BITS"
  | .parity => some "PARITY"
  | .flowControl => some "FLOW_CONTROL"
  | .jump | .noWait | .quiet | .verbose => none

/-- The argument takes a value. -/
def takesValue (a : Argument) : Bool := a.placeholder?.isSome

/-- The value of an argument that is not given one. -/
def preset? : Argument → Option String
  | .baudRate => some "115200"
  | .dataBits => some "8"
  | .stopBits => some "1"
  | .parity => some "none"
  | .flowControl => some "none"
  | _ => none

/-- The only values that an argument admits, in alphabetical order; none are listed where any value
may do. -/
def choices : Argument → List String
  | .dataBits => ["5", "6", "7", "8"]
  | .stopBits => ["1", "2"]
  | .parity => ["even", "none", "odd"]
  | .flowControl => ["hard", "none", "soft"]
  | _ => []

/-- The argument that has to come with this one. -/
def needs? : Argument → Option Argument
  | .writeData => some .writeLength
  | .writeLength => some .writeData
  | _ => none

/-- The argument may be given any number of times. -/
def isRepeatable : Argument → Bool
  | .verbose => true
  | _ => false

/-- Reads a rate in symbols per second. -/
def readBaudRate (text : String) : Except Text.Numeral.Defect UInt32 :=
  match Text.Numeral.read 10 UInt32.size text.toList with
  | .ok n => .ok (UInt32.ofNat n)
  | .error d => .error d

/-- What is wrong with a value, in words. -/
def objection? (a : Argument) (value : String) : Option String :=
  let ofFault {α : Type} : Except Fault α → Option String
    | .ok _ => none
    | .error e => some e.message
  match a with
  | .address | .writeData => ofFault (Setup.readWord value)
  | .writeLength => ofFault (Setup.readCount value)
  | .readLength => ofFault (Setup.readLength value)
  | .baudRate =>
    match readBaudRate value with
    | .ok _ => none
    | .error d => some d.message
  | _ => none

/-- How complaints name the argument. -/
def usage (a : Argument) : String :=
  let name :=
    match a.longNames, a.letter? with
    | name :: _, _ => "--" ++ name
    | [], some c => "-" ++ c.toString
    | [], none => ""
  match a.placeholder? with
  | some p => name ++ " <" ++ p ++ ">"
  | none => name

/-- The argument with a name behind two dashes. -/
def ofLongName? (name : String) : Option Argument :=
  all.find? fun a => a.longNames.contains name

/-- The argument with a letter behind one dash. -/
def ofLetter? (c : Char) : Option Argument :=
  all.find? fun a => a.letter? == some c

end Argument

end BootHost.Console
