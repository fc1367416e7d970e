import BootHost.Console.CommandLine
import BootHost.Run
import BootHost.Setup.Outline

/-!
# The program

One call of the program, from its command line to its exit status. What it has to say is collected
as items: notes, which are shown when the verbosity admits them, results, which are always shown,
the help text, and complaints about the command line. Grave notes and complaints go to the standard
error stream, all else to standard output.
-/

namespace BootHost.Console

/-- Something that the program says. -/
inductive Item where
  | note (n : Note)
  | result (text : String)
  | complaint (line : String)
  | help

/-- A line of standard output; the help text stands for itself. -/
inductive Printed where
  | text (line : String)
  | help

/-- What one call of the program printed, and its exit status. -/
structure Transcript where
  status : Nat
  out : List Printed
  err : List String

/-- One call of the program: its exit status, how much it tells, what it says, and the connection
that it used, if it used one. -/
structure Call (σ : Type) where
  status : Nat
  verbosity : Level := .info
  items : List Item
  conn : Option (Connection σ) := none

/-- A note as it is printed. -/
def noteText (n : Note) : String := "[" ++ n.level.name ++ "] " ++ n.text

namespace Item

/-- The item as it appears on standard output. -/
def printed? (verbosity : Level) : Item → Option Printed
  | .note n =>
    if n.isWithin verbosity && n.level != .error then some (.text (noteText n)) else none
  | .result text => some (.text text)
  | .complaint _ => none
  | .help => some .help

/-- The item as it appears on the standard error stream. -/
def complained? (verbosity : Level) : Item → Option String
  | .note n => if n.isWithin verbosity && n.level == .error then some (noteText n) else none
  | .result _ => none
  | .complaint line => some line
  | .help => none

end Item

/-- What a call printed. -/
def Call.transcript {σ : Type} (c : Call σ) : Transcript where
  status := c.status
  out := c.items.filterMap (Item.printed? c.verbosity)
  err := c.items.filterMap (Item.complained? c.verbosity)

/-- How much is told: with `quiet` only errors, otherwise more for each `v`. -/
def CommandLine.verbosity (c : CommandLine) : Level :=
  if c.has .quiet then .error
  else
    match c.count .verbose with
    | 0 => .info
    | 1 => .debug
    | _ => .trace

/-- What a report shows of one outcome: the data that was read. -/
def showOutcome (quiet : Bool) : Outcome → List Item
  | .read address data =>
    if quiet then [.result (Text.Hex.ofBytes data)]
    else [.note .result, .result (Text.HexView.ofMemory address data)]
  | _ => []

/-- The last line of a run that tells about itself. -/
def verdict (r : Report) : String :=
  match r.failure? with
  | none => "[BB] ✔ Done"
  | some e => "[BB] 💥 " ++ e.message

/-- What is shown of a report. -/
def showReport (quiet : Bool) (r : Report) : List Item :=
  r.entries.flatMap (fun e => showOutcome quiet e.outcome) ++
    (if quiet then [] else [.result (verdict r)])

/-- What is told about an open port. -/
def portItems (s : Setup) (path : String) : List Item :=
  [.note (.opening 1), .note (.opened path s.baudRate),
    .note (.lineSetting "data_bits" s.dataBits.name),
    .note (.lineSetting "stop_bits" s.stopBits.name),
    .note (.lineSetting "parity" s.parity.name),
    .note (.lineSetting "flow control" s.flowControl.name)]

variable {σ : Type} [Port σ]

/-- What is said about the end of a run, and its exit status. -/
def showResult (quiet : Bool) : Except Fault Report → Nat × List Item
  | .ok report => (report.exitCode, showReport quiet report)
  | .error e => (1, [.note (.gaveUp e), .result "[BB] 💥 Could not connect to the DUT!"])

/-- A run over an open port. -/
def runOver (storage : Storage) (s : Setup) (path : String) (port : σ) : Call σ :=
  match (Connection.ofPort port).run storage s with
  | (result, conn) =>
    { status := (showResult s.quiet result).1
      items := portItems s path ++ conn.line.notes.reverse.map Item.note ++ (showResult s.quiet result).2
      conn := some conn }

/-- What the program does when the port cannot be opened. -/
def unopened (e : Fault) : Call σ :=
  { status := 1
    items := [.note (.opening 1), .note (.gaveUp e),
      .result "[BB] 💥 Could not open the serial port!"] }

/-- A run with a set-up; `ports` opens the port at a path. -/
def runWith (storage : Storage) (ports : Option String → Except Fault (String × σ)) (s : Setup) :
    Call σ :=
  match ports s.path with
  | .error e => unopened e
  | .ok (path, port) => runOver storage s path port

/-- One call of the program with the words of its command line. -/
def program (storage : Storage) (ports : Option String → Except Fault (String × σ))
    (words : List String) : Call σ :=
  match CommandLine.parse words with
  | .error .help => { status := 0, items := [.help] }
  | .error .version => { status := 0, items := [.result "bebe 0.1.0"] }
  | .error (.complaint c) => { status := 1, items := c.lines.map Item.complaint }
  | .ok c =>
    let s := c.setup
    let outline := Item.note (.setup (Setup.Outline.text s))
    if s.request.isEmpty then { status := 0, verbosity := c.verbosity, items := [outline, .help] }
    else
      let run := runWith storage ports s
      { run with
        verbosity := c.verbosity
        items := outline :: run.items ++ [.note (.exitCode run.status)] }

end BootHost.Console
