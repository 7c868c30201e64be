import Provision.Text.Record
/-!
Faults: what a datastore answers when it refuses or cannot carry out a call.

A fault is already classified. Only an unavailable datastore is worth asking again, and only
"already exists" is ever taken for success by the caller.
-/

namespace Provision

inductive FaultKind where
  | authenticationFailed
  | unauthorized
  | alreadyExists
  | unavailable
  | other
deriving DecidableEq

structure Fault where
  kind : FaultKind
  detail : String
deriving DecidableEq

def FaultKind.name : FaultKind → String
  | .authenticationFailed => "AuthenticationFailed"
  | .unauthorized => "Unauthorized"
  | .alreadyExists => "AlreadyExists"
  | .unavailable => "Unavailable"
  | .other => "Other"

def FaultKind.lead : FaultKind → String
  | .authenticationFailed => "authentication failed: "
  | .unauthorized => "not authorized: "
  | .alreadyExists => "already exists: "
  | .unavailable => "datastore unavailable: "
  | .other => ""

namespace Fault

def message (fault : Fault) : String :=
  fault.kind.lead ++ fault.detail

def shown (fault : Fault) : String :=
  Text.applied fault.kind.name (Text.quoted fault.detail)

def isAlreadyExists (fault : Fault) : Bool :=
  fault.kind = .alreadyExists

/-- Rejected logins and missing rights stay what they are however often one asks. -/
def isRetryable (fault : Fault) : Bool :=
  fault.kind = .unavailable

end Fault

end Provision
