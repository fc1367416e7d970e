/-!
# Faults of devices and files

What a serial line or a file says when a call on it goes wrong: a kind, on which the host decides
whether to try again, and a text, which it passes on. Two kinds are no failures: a call that
timed out or was interrupted is simply made again.
-/

namespace BootHost

/-- The kinds of fault that a device or a file knows. -/
inductive FaultKind where
  | addrInUse
  | addrNotAvailable
  | alreadyExists
  | argumentListTooLong
  | brokenPipe
  | connectionAborted
  | connectionRefused
  | connectionReset
  | crossesDevices
  | deadlock
  | directoryNotEmpty
  | executableFileBusy
  | fileTooLarge
  | filesystemLoop
  | hostUnreachable
  | inputOutput
  | interrupted
  | invalidData
  | invalidFilename
  | invalidInput
  | isADirectory
  | networkDown
  | networkUnreachable
  | notADirectory
  | notConnected
  | notFound
  | notSeekable
  | other
  | outOfMemory
  | permissionDenied
  | quotaExceeded
  | readOnlyFilesystem
  | resourceBusy
  | staleNetworkFileHandle
  | storageFull
  | timedOut
  | tooManyLinks
  | uncategorized
  | unexpectedEnd
  | unsupported
  | wouldBlock
  | writeZero
  deriving DecidableEq

/-- The words for a kind, for faults that bring none of their own. -/
def FaultKind.text : FaultKind → String
  | .addrInUse => "address in use"
  | .addrNotAvailable => "address not available"
  | .alreadyExists => "entity already exists"
  | .argumentListTooLong => "argument list too long"
  | .brokenPipe => "broken pipe"
  | .connectionAborted => "connection aborted"
  | .connectionRefused => "connection refused"
  | .connectionReset => "connection reset"
  | .crossesDevices => "cross-device link or rename"
  | .deadlock => "deadlock"
  | .directoryNotEmpty => "directory not empty"
  | .executableFileBusy => "executable file busy"
  | .fileTooLarge => "file too large"
  | .filesystemLoop => "filesystem loop or indirection limit (e.g. symlink loop)"
  | .hostUnreachable => "host unreachable"
  | .inputOutput => "input/output error"
  | .interrupted => "operation interrupted"
  | .invalidData => "invalid data"
  | .invalidFilename => "invalid filename"
  | .invalidInput => "invalid input parameter"
  | .isADirectory => "is a directory"
  | .networkDown => "network down"
  | .networkUnreachable => "network unreachable"
  | .notADirectory => "not a directory"
  | .notConnected => "not connected"
  | .notFound => "entity not found"
  | .notSeekable => "seek on unseekable file"
  | .other => "other error"
  | .outOfMemory => "out of memory"
  | .permissionDenied => "permission denied"
  | .quotaExceeded => "quota exceeded"
  | .readOnlyFilesystem => "read-only filesystem or storage medium"
  | .resourceBusy => "resource busy"
  | .staleNetworkFileHandle => "stale network file handle"
  | .storageFull => "no storage space"
  | .timedOut => "timed out"
  | .tooManyLinks => "too many links"
  | .uncategorized => "uncategorized error"
  | .unexpectedEnd => "unexpected end of file"
  | .unsupported => "unsupported"
  | .wouldBlock => "operation would block"
  | .writeZero => "write zero"

/-- A call on a device or a file that went wrong. -/
structure DeviceFault where
  kind : FaultKind
  text : String
  deriving DecidableEq

namespace DeviceFault

/-- A fault in the words of its kind. -/
def plain (kind : FaultKind) : DeviceFault := ⟨kind, kind.text⟩

/-- The fault was an interruption. -/
def isInterruption (e : DeviceFault) : Bool := e.kind == .interrupted

/-- The call may simply be made again: nothing has come yet, or something else came between. -/
def isTransient (e : DeviceFault) : Bool := e.kind == .timedOut || e.kind == .interrupted

/-- A line that takes no more bytes. -/
def writeStopped : DeviceFault := ⟨.writeZero, "link stopped accepting bytes"⟩

/-- A line that closed after `got` of `wanted` bytes. -/
def closedAfter (got wanted : Nat) : DeviceFault :=
  ⟨.unexpectedEnd, "link closed after " ++ toString got ++ " of " ++ toString wanted ++ " bytes"⟩

/-- Not even one byte was brought. -/
def noByte : DeviceFault := ⟨.unexpectedEnd, "no byte received"⟩

/-- A file or a part of its path does not exist. -/
def notFound : DeviceFault := ⟨.notFound, "No such file or directory (os error 2)"⟩

/-- A path goes through something that is no directory. -/
def notADirectory : DeviceFault := ⟨.notADirectory, "Not a directory (os error 20)"⟩

/-- A directory was read like a file. -/
def isADirectory : DeviceFault := ⟨.isADirectory, "Is a directory (os error 21)"⟩

/-- A part of a path is longer than any name may be. -/
def nameTooLong : DeviceFault := ⟨.invalidFilename, "File name too long (os error 36)"⟩

/-- A path holds the character that ends texts for the file system. -/
def nameHasNul : DeviceFault := ⟨.invalidInput, "file name contained an unexpected NUL byte"⟩

/-- The medium failed. -/
def inputOutput : DeviceFault := ⟨.inputOutput, "Input/output error (os error 5)"⟩

/-- The file may not be opened. -/
def permissionDenied : DeviceFault := ⟨.permissionDenied, "Permission denied (os error 13)"⟩

/-- The faults that a file system reports by number. -/
def ofErrno? : Nat → Option DeviceFault
  | 2 => some notFound
  | 5 => some inputOutput
  | 13 => some permissionDenied
  | 20 => some notADirectory
  | 21 => some isADirectory
  | 36 => some nameTooLong
  | _ => none

end DeviceFault

end BootHost
