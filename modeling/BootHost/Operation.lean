/-!
# Operations

The four things that a run can be asked to do, in the order in which it does them.
-/

namespace BootHost

/-- The kinds of operation. -/
inductive Operation where
  | writeFile
  | writeValue
  | read
  | jump
  deriving DecidableEq

/-- An operation in words. -/
def Operation.text : Operation → String
  | .writeFile => "write"
  | .writeValue => "immediate write"
  | .read => "read"
  | .jump => "jump"

end BootHost
