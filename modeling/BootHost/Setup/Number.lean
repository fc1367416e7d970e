import BootHost.Fault
import BootHost.Text.Numeral

/-!
# Numbers in a set-up

Addresses and values are hexadecimal, counts are decimal unless they are marked, and a read
length is a count that fits the length field. A text that is none of these is quoted in the fault:
as it was given, except that a marked count is quoted without the blanks around it.
-/

namespace BootHost.Setup

open Text (trim)

/-- Reads an address or a value. -/
def readWord (text : String) : Except Fault UInt64 :=
  match Text.Numeral.hex? text.toList with
  | some n => .ok (UInt64.ofNat n)
  | none => .error (.notANumber text)

/-- The text that a fault about a count quotes. -/
def quotedCount (text : String) : String :=
  if Text.Numeral.isMarked (trim text.toList) then String.ofList (trim text.toList) else text

/-- Reads a count. -/
def readCount (text : String) : Except Fault Nat :=
  match Text.Numeral.count? text.toList with
  | some n => .ok n
  | none => .error (.notANumber (quotedCount text))

/-- Reads a read length. -/
def readLength (text : String) : Except Fault UInt32 :=
  match readCount text with
  | .error e => .error e
  | .ok n => if n < UInt32.size then .ok (UInt32.ofNat n) else .error (.notANumber text)

end BootHost.Setup
