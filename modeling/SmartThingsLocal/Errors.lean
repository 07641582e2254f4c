import Mathlib.Tactic

/-!
# Classified failures

The exception classes of `errors.py` that the modelled functions raise, with
their stable codes and fixed messages, and the interpreter's own exceptions that
reach a caller of the encoders.
-/

namespace SmartThingsLocal

/-- The leaf classes below `SmartThingsLocalError` that the modelled code raises. -/
inductive SmartThingsLocalError
  | endpointError
  | sessionTimeoutError
  | sessionClosedError
  | sessionResetError
  | sessionIdentifierError
  | malformedMessageError
  | blockwiseError
  deriving DecidableEq, Repr

namespace SmartThingsLocalError

def code : SmartThingsLocalError → String
  | .endpointError => "endpoint"
  | .sessionTimeoutError => "timeout"
  | .sessionClosedError => "session_closed"
  | .sessionResetError => "session_reset"
  | .sessionIdentifierError => "session_identifier"
  | .malformedMessageError => "malformed_message"
  | .blockwiseError => "blockwise"

def message : SmartThingsLocalError → String
  | .endpointError => "endpoint operation failed"
  | .sessionTimeoutError => "session operation timed out"
  | .sessionClosedError => "session is closed"
  | .sessionResetError => "peer reset the exchange"
  | .sessionIdentifierError => "no free message identifier for a new exchange"
  | .malformedMessageError => "malformed protocol message"
  | .blockwiseError => "blockwise transfer failed"

end SmartThingsLocalError

/-- Exceptions of the interpreter and its standard library. -/
inductive PythonError
  | valueError (message : String)
  | structError (message : String)
  | overflowError (message : String)
  | indexError (message : String)
  | attributeError (message : String)
  deriving DecidableEq, Repr

end SmartThingsLocal
