import BootHost.Console.Help
import BootHost.Console.Program
import BootHost.Port.Replayed

/-!
# The command line program

Opens the port and the file that the command line names, and lets the program run over them. The
program itself is pure, so it is made again over a replayed port each time the board has said
something: what it has sent by then is passed on, what it has told is printed, and the bytes it
waits for are read. The line has to be set up beforehand.
-/

namespace BootHost.Main

/-- The two directions of an open device. -/
structure Device where
  input : IO.FS.Handle
  output : IO.FS.Handle

/-- A fault of the system in the terms of the host. -/
def deviceFault : IO.Error → DeviceFault
  | .noFileOrDirectory .. => .notFound
  | .permissionDenied .. => .permissionDenied
  | .inappropriateType .. => .isADirectory
  | e => ⟨.other, toString e⟩

/-- Opens both directions of a device. -/
def openDevice (path : String) : IO (Except Fault Device) := do
  try
    let input ← IO.FS.Handle.mk path .read
    let output ← IO.FS.Handle.mk path .append
    return .ok ⟨input, output⟩
  catch e => return .error (.serial (toString e))

/-- Reads a file to its end. -/
def readFile (path : String) : IO (Except DeviceFault OpenFile) := do
  try return .ok (.regular (← IO.FS.readBinFile path).toList)
  catch e => return .error (deviceFault e)

/-- Prints an item. -/
def printItem (verbosity : Level) (item : Console.Item) : IO Unit := do
  match item.printed? verbosity with
  | some (.text line) => IO.println line
  | some .help => IO.println Console.helpText
  | none => pure ()
  match item.complained? verbosity with
  | some line => IO.eprintln line
  | none => pure ()

/-- The item does not hang on bytes that are still to come. -/
def isSettled : Console.Item → Bool
  | .note (.failed _ (.transport e)) => e != Replayed.notYet
  | .note (.gaveUp (.transport e)) => e != Replayed.notYet
  | _ => true

/-- Makes the program over and over, with ever more bytes of the device, until it ends. The first
`told` items were printed and the first `said` bytes were passed on before. -/
partial def converse (device : Device) (storage : Storage) (words : List String)
    (known : Replayed) (told said : Nat) : IO UInt32 := do
  let call : Console.Call Replayed := Console.program storage
    (fun path => .ok (path.getD "", known)) words
  match call.conn with
  | none =>
    call.items.forM (printItem call.verbosity)
    return UInt32.ofNat call.status
  | some conn =>
    let taken := conn.line.traffic.taken
    device.output.write ⟨(taken.drop said).toArray⟩
    device.output.flush
    match conn.line.port.wanted with
    | none =>
      (call.items.drop told).forM (printItem call.verbosity)
      return UInt32.ofNat call.status
    | some n =>
      let settled := call.items.takeWhile isSettled
      (settled.drop told).forM (printItem call.verbosity)
      let more ← device.input.read (USize.ofNat n)
      let known := { known with
        incoming := known.incoming ++ more.toList, closed := more.isEmpty }
      converse device storage words known settled.length taken.length

/-- Runs the program without a port. -/
def withoutPort (e : Fault) (words : List String) : IO UInt32 := do
  let call : Console.Call Replayed := Console.program (fun _ => .error .notFound) (fun _ => .error e) words
  call.items.forM (printItem call.verbosity)
  return UInt32.ofNat call.status

/-- Opens what the set-up names, then runs the program. -/
def runOn (s : Setup) (words : List String) : IO UInt32 := do
  match s.path with
  | none => withoutPort (.serial "no port was named") words
  | some path =>
    match ← openDevice path with
    | .error e => withoutPort e words
    | .ok device =>
      match s.request.writeFile with
      | none => converse device (fun _ => .error .notFound) words ⟨[], false, none⟩ 0 0
      | some file =>
        let content ← readFile file
        converse device (fun _ => content) words ⟨[], false, none⟩ 0 0

end BootHost.Main

/-- Runs the program with the words of the command line. -/
def main (words : List String) : IO UInt32 := do
  match BootHost.Console.CommandLine.parse words with
  | .error _ => BootHost.Main.withoutPort (.serial "no port was named") words
  | .ok c =>
    let s := c.setup
    if s.request.isEmpty then BootHost.Main.withoutPort (.serial "no port was named") words
    else BootHost.Main.runOn s words
