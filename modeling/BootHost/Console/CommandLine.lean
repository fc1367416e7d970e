import BootHost.Console.Scan
import BootHost.Setup

/-!
# Command lines

What was read from a command line is completed by presets and checked: an address must be there,
each argument must have the value it takes, each value must be admitted, arguments that belong
together must come together, and most may come only once. An accepted command line gives the
set-up of a run.
-/

namespace BootHost.Console

/-- What was found on a command line. -/
structure CommandLine where
  found : List Finding

namespace CommandLine

/-- How often an argument was mentioned. -/
def count (a : Argument) (c : CommandLine) : Nat := c.found.count (.mention a)

/-- The values of an argument. -/
def values (a : Argument) (c : CommandLine) : List String :=
  c.found.filterMap fun
    | .value b v => if b = a then some v else none
    | .mention _ => none

/-- The first value of an argument. -/
def value? (a : Argument) (c : CommandLine) : Option String := (c.values a).head?

/-- The argument was mentioned. -/
def has (a : Argument) (c : CommandLine) : Bool := decide (0 < c.count a)

/-- The argument plays a part, be it by its preset only. -/
def concerns (a : Argument) (c : CommandLine) : Bool := c.has a || !(c.values a).isEmpty

/-- Gives every argument without a value its preset. -/
def withPresets (c : CommandLine) : CommandLine :=
  ⟨c.found ++ Argument.all.filterMap fun a =>
    if (c.values a).isEmpty then a.preset?.map (Finding.value a) else none⟩

/-- What is wrong with a value. -/
def valueComplaint? (a : Argument) (value : String) : Option Complaint :=
  if !a.choices.isEmpty && !a.choices.contains value then some (.noChoice a value)
  else (a.objection? value).map (Complaint.invalid a)

/-- What is wrong with an argument that plays a part. -/
def complaint? (a : Argument) (c : CommandLine) : Option Complaint :=
  if a.takesValue && (c.values a).isEmpty then some (.missingValue a)
  else
    match (c.values a).findSome? (valueComplaint? a) with
    | some complaint => some complaint
    | none =>
      match a.needs?.filter (fun b => !c.concerns b) with
      | some b => some (.missing b)
      | none => if 1 < c.count a && !a.isRepeatable then some (.repeated a) else none

/-- Checks what was read. -/
def ofScan (s : Scan) : Except Stop CommandLine :=
  let c := CommandLine.withPresets ⟨s.found⟩
  if !c.has .address then .error (.complaint (.missing .address))
  else
    match s.awaiting.filter (fun a => (c.values a).isEmpty) with
    | some a => .error (.complaint (.missingValue a))
    | none =>
      match Argument.all.findSome? (fun a => if c.concerns a then c.complaint? a else none) with
      | some complaint => .error (.complaint complaint)
      | none => .ok c

/-- Reads and checks a command line. -/
def parse (ws : List String) : Except Stop CommandLine :=
  match Scan.words ws {} with
  | .error e => .error e
  | .ok s => ofScan s

/-- The data bits for a value. -/
def dataBits : Option String → DataBits
  | some "5" => .five
  | some "6" => .six
  | some "7" => .seven
  | _ => .eight

/-- The stop bits for a value. -/
def stopBits : Option String → StopBits
  | some "2" => .two
  | _ => .one

/-- The parity for a value. -/
def parity : Option String → Parity
  | some "even" => .even
  | some "odd" => .odd
  | _ => .none

/-- The flow control for a value. -/
def flowControl : Option String → FlowControl
  | some "soft" => .software
  | some "hard" => .hardware
  | _ => .none

/-- The value to write, when both of its arguments are given. -/
def immediate? (c : CommandLine) : Option Immediate :=
  match (c.value? .writeData).bind fun v => (Setup.readWord v).toOption,
    (c.value? .writeLength).bind fun v => (Setup.readCount v).toOption with
  | some value, some length => some ⟨value, length⟩
  | _, _ => none

/-- The set-up that a command line asks for. -/
def setup (c : CommandLine) : Setup where
  path := c.value? .device
  baudRate := ((c.value? .baudRate).bind fun v => (Argument.readBaudRate v).toOption).getD 115200
  dataBits := dataBits (c.value? .dataBits)
  flowControl := flowControl (c.value? .flowControl)
  parity := parity (c.value? .parity)
  stopBits := stopBits (c.value? .stopBits)
  address := ((c.value? .address).bind fun v => (Setup.readWord v).toOption).getD 0
  skipWait := c.has .noWait
  quiet := c.has .quiet
  request :=
    { writeFile := c.value? .writeFile
      writeValue := c.immediate?
      readLength := (c.value? .readLength).bind fun v => (Setup.readLength v).toOption
      jump := c.has .jump }

end CommandLine

end BootHost.Console
