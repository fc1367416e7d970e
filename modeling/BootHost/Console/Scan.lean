import BootHost.Console.Argument

/-!
# Reading the words of a command line

The words are read from the left. A word with two dashes is a long name, perhaps with a value
behind an equals sign; a word with one dash is a cluster of letters, of which one that takes a
value takes the rest of the word. A value may also be the next word, unless that word has a dash
in front. Behind a word of two dashes alone nothing may follow. Asking for help or for the version
ends the reading at once.
-/

namespace BootHost.Console

/-- Something found on the command line. -/
inductive Finding where
  | mention (a : Argument)
  | value (a : Argument) (text : String)
  deriving DecidableEq

/-- What is wrong with a command line. -/
inductive Complaint where
  | unexpected (word : String)
  | missingValue (a : Argument)
  | missing (a : Argument)
  | noChoice (a : Argument) (value : String)
  | invalid (a : Argument) (objection : String)
  | repeated (a : Argument)

/-- A complaint in words, line by line. -/
def Complaint.lines : Complaint → List String
  | .unexpected word =>
    ["error: Found argument '" ++ word ++
      "' which wasn't expected, or isn't valid in this context"]
  | .missingValue a =>
    ["error: The argument '" ++ a.usage ++ "' requires a value but none was supplied"]
  | .missing a =>
    ["error: The following required arguments were not provided:", "    " ++ a.usage]
  | .noChoice a value =>
    ["error: '" ++ value ++ "' isn't a valid value for '" ++ a.usage ++ "'",
      "\t[possible values: " ++ ", ".intercalate a.choices ++ "]"]
  | .invalid a objection => ["error: Invalid value for '" ++ a.usage ++ "': " ++ objection]
  | .repeated a =>
    ["error: The argument '" ++ a.usage ++
      "' was provided more than once, but cannot be used multiple times"]

/-- Why there is nothing to run. -/
inductive Stop where
  | help
  | version
  | complaint (c : Complaint)

/-- What was read so far, and the argument whose value may come next. -/
structure Scan where
  found : List Finding := []
  awaiting : Option Argument := none

namespace Scan

/-- Adds an argument and the value that came with it. -/
def mention (a : Argument) (value : Option String) (s : Scan) : Scan :=
  match a.takesValue, value with
  | false, _ => { found := s.found ++ [.mention a] }
  | true, none => { found := s.found ++ [.mention a], awaiting := some a }
  | true, some v => { found := s.found ++ [.mention a, .value a v] }

/-- The text behind an equals sign, of which there may be several. -/
def afterEquals (text : List Char) : String := String.ofList (text.dropWhile (· == '='))

/-- Reads a word with two dashes. -/
def long (word : List Char) (s : Scan) : Except Stop Scan :=
  let body := word.dropWhile (· == '-')
  let name := String.ofList (body.takeWhile (· != '='))
  let value :=
    match body.dropWhile (· != '=') with
    | [] => none
    | text => some (afterEquals text)
  match Argument.ofLongName? name with
  | some a => .ok (s.mention a value)
  | none =>
    if name = "help" then .error .help
    else if name = "version" then .error .version
    else .error (.complaint (.unexpected ("--" ++ name)))

/-- Reads the letters behind one dash. -/
def cluster : List Char → Scan → Except Stop Scan
  | [], s => .ok s
  | c :: rest, s =>
    match Argument.ofLetter? c with
    | some a =>
      if a.takesValue then .ok (s.mention a (if rest = [] then none else some (afterEquals rest)))
      else cluster rest (s.mention a none)
    | none =>
      if c = 'h' then .error .help
      else if c = 'V' then .error .version
      else .error (.complaint (.unexpected ("-" ++ c.toString)))

/-- Reads the words of a command line. -/
def words : List String → Scan → Except Stop Scan
  | [], s => .ok s
  | w :: rest, s =>
    match w.toList with
    | ['-', '-'] =>
      match rest with
      | [] => .ok s
      | next :: _ => .error (.complaint (.unexpected next))
    | '-' :: '-' :: _ =>
      match s.long w.toList with
      | .error e => .error e
      | .ok s' => words rest s'
    | '-' :: c :: letters =>
      match cluster (c :: letters) { s with awaiting := none } with
      | .error e => .error e
      | .ok s' => words rest s'
    | _ =>
      match s.awaiting with
      | some a => words rest { found := s.found ++ [.value a w] }
      | none => .error (.complaint (.unexpected w))

end Scan

end BootHost.Console
