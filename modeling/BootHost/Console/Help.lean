import BootHost.Console.Argument

/-!
# Help

The help text: what the program is for, and its arguments, each with what it is for.
-/

namespace BootHost.Console

/-- What an argument is for. -/
def Argument.purpose : Argument → String
  | .address => "address to interact with, in hex"
  | .writeFile => "file to write to the DUT"
  | .writeData => "value to write to the DUT, in hex"
  | .writeLength => "number of low-order bytes of --wdata to write (1 to 8)"
  | .readLength => "number of bytes to read from the DUT"
  | .jump => "begin executing at the given address"
  | .noWait => "assume the DUT is already awake and nock right away"
  | .quiet => "only print read data, as plain hex"
  | .device => "the tty device to use"
  | .baudRate => "serial port baud rate"
  | .dataBits => "number of bits per character"
  | .stopBits => "number of stop bits per byte"
  | .parity => "parity checking protocol"
  | .flowControl => "flow control mode"
  | .verbose => "tell more, repeat for even more"

/-- The lines of the help text about one argument. -/
def helpLines (a : Argument) : List String :=
  let letter :=
    match a.letter?, a.longNames with
    | some c, _ :: _ => "-" ++ c.toString ++ ", "
    | _, _ => ""
  let preset :=
    match a.preset? with
    | some v => " [default: " ++ v ++ "]"
    | none => ""
  ["    " ++ letter ++ a.usage, "            " ++ a.purpose ++ preset]

/-- The help text. -/
def helpText : String :=
  "\n".intercalate <|
    ["Talks to the boot loader of a board over a serial port: waits for the board, greets it,",
      "then writes --wfile, writes --wdata, reads --rlen bytes and jumps, as far as requested,",
      "all starting at --addr.", ""] ++ Argument.all.flatMap helpLines

end BootHost.Console
