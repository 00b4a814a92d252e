import Mathlib.Data.String.Basic

/-!
# Errors

shill reports the outcome of an operation in an `Error` out-parameter (`error.h`, not part of
this snapshot): a type and a message. `Error::PopulateAndLog(error, type, message)` fills it and
logs the message; only the filled value is modelled. A default-constructed `Error` is a success,
which is what `IsSuccess()` tests.

`ErrorType` keeps the members of `Error::Type` the modelled code names; an error that arrives
from D-Bus (a proxy call the remote side rejects) is an `Error` the environment chooses.
-/

namespace Shill

/-- `Error::Type`: the members the modelled code names. -/
inductive ErrorType
  | success
  | operationFailed
  | invalidArguments
  | notConnected
  deriving DecidableEq, Repr

/-- `Error`: a type and a message. -/
structure Error where
  type : ErrorType
  message : String
  deriving DecidableEq, Repr

namespace Error

/-- `Error()`: a success with no message. -/
def success : Error := ⟨.success, ""⟩

/-- `Error::IsSuccess`. -/
def IsSuccess (e : Error) : Prop := e.type = .success

instance (e : Error) : Decidable e.IsSuccess := inferInstanceAs (Decidable (e.type = _))

end Error

end Shill
