import BootHost.Storage

/-!
# Directories

A storage that is one working directory with regular files and further directories in it. A path is
resolved part by part: every part but the last must name a directory, a part that is too long is
refused where it is met, and nothing is known of what lies outside the working directory. A
directory can be opened but not read.
-/

namespace BootHost

/-- A working directory: its regular files with their contents, and its directories, by path. -/
structure Directory where
  files : List (String × Bytes) := []
  directories : List String := []

namespace Directory

/-- What a path leads to. -/
inductive Node where
  | file (content : Bytes)
  /-- A directory, as the parts of its path from the working directory. -/
  | directory (parts : List String)
  /-- A directory that is not below the working directory. -/
  | outside

/-- The longest part of a path, in bytes. -/
def maxPart : Nat := 255

/-- The longest path, in bytes. -/
def maxPath : Nat := 4095

/-- What a directory is said to measure. -/
def directorySize : Nat := 4096

/-- The parts of a path. -/
def parts (path : String) : List String := path.splitOn "/"

/-- The path is a directory, by its own name or because something lies in it. -/
def hasDirectory (d : Directory) (path : String) : Bool :=
  (d.directories ++ d.files.map Prod.fst).any (·.startsWith (path ++ "/")) || d.directories.contains path

/-- What a path from the working directory names, given by its parts. -/
def find? (d : Directory) (ps : List String) : Option Node :=
  let path := "/".intercalate ps
  match d.files.find? (fun f => f.1 == path) with
  | some f => some (.file f.2)
  | none => if d.hasDirectory path then some (.directory ps) else none

/-- Follows the parts of a path from a node on. -/
def follow (d : Directory) : Node → List String → Except DeviceFault Node
  | node, [] => .ok node
  | .file _, _ :: _ => .error .notADirectory
  | .outside, p :: rest =>
    if p = "" ∨ p = "." ∨ p = ".." then d.follow .outside rest
    else .error (if maxPart < p.utf8ByteSize then .nameTooLong else .notFound)
  | .directory here, p :: rest =>
    if p = "" ∨ p = "." then d.follow (.directory here) rest
    else if p = ".." then d.follow (if here = [] then .outside else .directory here.dropLast) rest
    else if maxPart < p.utf8ByteSize then .error .nameTooLong
    else
      match d.find? (here ++ [p]) with
      | none => .error .notFound
      | some node => d.follow node rest

/-- What a path leads to. -/
def resolve (d : Directory) (path : String) : Except DeviceFault Node :=
  if path.contains '\x00' then .error .nameHasNul
  else if path = "" then .error .notFound
  else if maxPath < path.utf8ByteSize then .error .nameTooLong
  else d.follow (if path.startsWith "/" then .outside else .directory []) (parts path)

/-- Opens what a path leads to. -/
def openFile (d : Directory) : Storage := fun path =>
  match d.resolve path with
  | .error e => .error e
  | .ok (.file content) => .ok (.regular content)
  | .ok (.directory _) => .ok ⟨some directorySize, [.fault .isADirectory]⟩
  | .ok .outside => .ok ⟨some directorySize, [.fault .isADirectory]⟩

end Directory

end BootHost
