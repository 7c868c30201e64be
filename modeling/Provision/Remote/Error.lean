import Provision.Fault
/-!
Errors of the database driver and of the server, and the faults they count as.

What the server answers is classified by its code alone. A connection that cannot be made or breaks
is unavailability; whatever is left is an unclassified fault.
-/

namespace Provision.Remote

inductive DriverError where
  /-- The server's log-in exchange was refused. -/
  | authentication (message : String)
  | command (code : Int32) (codeName message : String)
  | write (code : Int32) (codeName : Option String) (message : String)
  | writeConcern (code : Int32) (codeName message : String)
  | io (message : String)
  /-- No server was found in time. -/
  | serverSelection (message : String)
  | dnsResolve (message : String)
  /-- The connection belonged to a pool that another failure had cleared. -/
  | connectionPoolCleared (message : String)
  | invalidResponse (message : String)
  | invalidArgument (message : String)
  | custom (message : String)
  | shutdown
  | sessionsNotSupported
  | missingResumeToken
  /-- An error of any other kind, by its own text. -/
  | unlisted (cause : String)
deriving DecidableEq

/-- What the server's codes stand for. An existing user, a duplicate key and an existing collection
are one kind. -/
def faultKindOfCode (code : Int32) : FaultKind :=
  if code = 18 then .authenticationFailed
  else if code = 13 then .unauthorized
  else if code = 48 ∨ code = 11000 ∨ code = 51003 then .alreadyExists
  else .other

def faultOfCode (code : Int32) (message : String) : Fault :=
  ⟨faultKindOfCode code, message⟩

namespace DriverError

def faultKind : DriverError → FaultKind
  | .authentication _ => .authenticationFailed
  | .command code _ _ | .write code _ _ => faultKindOfCode code
  | .io _ | .serverSelection _ | .dnsResolve _ | .connectionPoolCleared _ => .unavailable
  | _ => .other

def cause : DriverError → String
  | .authentication message | .serverSelection message | .connectionPoolCleared message
  | .unlisted message => message
  | .command code codeName message =>
    "Command failed: Error code " ++ toString code.toInt ++ s!" ({codeName}): {message}"
  | .write code codeName message =>
    "An error occurred when trying to execute a write operation: "
      ++ Text.applied "WriteError" (Text.record "WriteError"
        [("code", toString code.toInt), ("code_name", Text.optional (codeName.map Text.quoted)),
          ("message", Text.quoted message), ("details", "None")])
  | .writeConcern code codeName message =>
    "An error occurred when trying to execute a write operation: "
      ++ Text.applied "WriteConcernError" (Text.record "WriteConcernError"
        [("code", toString code.toInt), ("code_name", Text.quoted codeName),
          ("message", Text.quoted message), ("details", "None"), ("labels", "[]")])
  | .io message => "I/O error: " ++ message
  | .dnsResolve message => "An error occurred during DNS resolution: " ++ message
  | .invalidResponse message =>
    "The server returned an invalid reply to a database operation: " ++ message
  | .invalidArgument message => "An invalid argument was provided: " ++ message
  | .custom message => "Custom user error: " ++ message
  | .shutdown => "Client has been shut down"
  | .sessionsNotSupported =>
    "Attempted to start a session on a deployment that does not support sessions"
  | .missingResumeToken => "Cannot provide resume functionality when the resume token is missing"

/-- What the driver writes before and behind the cause. -/
def annotations : String × String :=
  ("Kind: ", ", labels: \x7b\x7d, source: None, server response: None")

def message (error : DriverError) : String :=
  annotations.1 ++ error.cause ++ annotations.2

def fault (error : DriverError) : Fault :=
  ⟨error.faultKind, error.message⟩

end DriverError

theorem faultOfCode_not_retryable (code : Int32) (message : String) :
    (faultOfCode code message).isRetryable = false := by
  unfold faultOfCode faultKindOfCode Fault.isRetryable
  repeat' split
  all_goals rfl

end Provision.Remote
