import BootHost.Memory.Source

/-!
# Storage

Where the files to write are kept. Opening a path either fails or gives a file: the size it is
said to have, if that can be told, and what reading it brings.
-/

namespace BootHost

/-- An opened file. -/
structure OpenFile where
  /-- The size that it is said to have, unless nothing can be told of it. -/
  size : Option Nat
  content : Memory.Source

namespace OpenFile

/-- A regular file: its size is that of its content, which reads back without a fault. -/
def regular (content : Bytes) : OpenFile := ⟨some content.length, [.data content]⟩

end OpenFile

/-- What opening each path gives. -/
abbrev Storage := String → Except DeviceFault OpenFile

end BootHost
