import BootHost.Setup
import BootHost.Text.Quoted

/-!
# Set-ups written out

The set-up of a run as an indented text, one field a line. A block is a list of lines; blocks
are nested by `nest`, which indents each of them by four columns and closes it with a comma.
-/

namespace BootHost.Setup.Outline

/-- The lines of a part of an outline. -/
abbrev Block := List String

/-- A block as it stands inside of another one. -/
def indent (b : Block) : Block :=
  match b.reverse with
  | [] => []
  | last :: earlier => ((last ++ ",") :: earlier).reverse.map ("    " ++ ·)

/-- Blocks between an opening and a closing line. -/
def nest (opening : String) (parts : List Block) (closing : String) : Block :=
  opening :: parts.flatMap indent ++ [closing]

/-- A field with its name in front of its first line. -/
def field (name : String) (b : Block) : Block :=
  match b with
  | [] => [name ++ ":"]
  | first :: rest => (name ++ ": " ++ first) :: rest

/-- A record with named fields. -/
def record (name : String) (fields : List (String × Block)) : Block :=
  nest (name ++ " \x7b") (fields.map fun f => field f.1 f.2) "\x7d"

/-- Something that may be absent. -/
def optional : Option Block → Block
  | none => ["None"]
  | some b => nest "Some(" [b] ")"

/-- A truth value. -/
def flag (b : Bool) : Block := [if b then "true" else "false"]

/-- A number of milliseconds, in seconds from one second on. -/
def duration (milliseconds : Nat) : String :=
  if milliseconds = 0 then "0ns"
  else if milliseconds < 1000 then toString milliseconds ++ "ms"
  else
    let digits := (toString (1000 + milliseconds % 1000)).toList.drop 1
    let fraction := (digits.reverse.dropWhile (· == '0')).reverse
    let whole := toString (milliseconds / 1000)
    if fraction = [] then whole ++ "s" else whole ++ "." ++ String.ofList fraction ++ "s"

/-- A value to write. -/
def immediate (i : Immediate) : Block :=
  record "Immediate"
    [("value", [toString i.value.toNat]),
     ("length", [toString i.length])]

/-- The requested operations. -/
def request (r : Request) : Block :=
  record "Operations"
    [("write_file", optional (r.writeFile.map fun p => [Text.Quoted.quote Text.Quoted.fileName p])),
     ("write_value", optional (r.writeValue.map immediate)),
     ("read_length", optional (r.readLength.map fun n => [toString n.toNat])),
     ("jump", flag r.jump)]

/-- The whole set-up. -/
def setup (s : Setup) : Block :=
  record "Settings"
    [("path", optional (s.path.map fun p => [Text.Quoted.quote Text.Quoted.plain p])),
     ("baud_rate", [toString s.baudRate.toNat]),
     ("data_bits", [s.dataBits.name]),
     ("flow_control", [s.flowControl.name]),
     ("parity", [s.parity.name]),
     ("stop_bits", [s.stopBits.name]),
     ("timeout", [duration s.timeout]),
     ("address", [toString s.address.toNat]),
     ("skip_wait", flag s.skipWait),
     ("quiet", flag s.quiet),
     ("operations", request s.request),
     ("_private_use_builder", ["()"])]

/-- The text of a whole set-up. -/
def text (s : Setup) : String := "\n".intercalate (setup s)

end BootHost.Setup.Outline
