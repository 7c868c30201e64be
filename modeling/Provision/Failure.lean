import Provision.Fault
/-!
Failures: why a whole operation did not succeed, by the stage that failed.
-/

namespace Provision

inductive Failure where
  /-- The administrator could not log in. -/
  | authentication (scope message : String)
  | grant (username database message : String)
  | marker (database collection message : String)
  /-- The application account could not log in afterwards. -/
  | verification (username database message : String)
  /-- The input was rejected before anything was asked of the datastore. -/
  | input (message : String)
  | datastore (operation message : String)
deriving DecidableEq

namespace Failure

def name : Failure → String
  | .authentication .. => "Auth"
  | .grant .. => "Grant"
  | .marker .. => "Marker"
  | .verification .. => "Verify"
  | .input .. => "Config"
  | .datastore .. => "Store"

def parts : Failure → List (String × String)
  | .authentication scope message => [("scope", scope), ("message", message)]
  | .grant username database message | .verification username database message =>
    [("username", username), ("database", database), ("message", message)]
  | .marker database collection message =>
    [("database", database), ("collection", collection), ("message", message)]
  | .input message => [("message", message)]
  | .datastore operation message => [("operation", operation), ("message", message)]

def message : Failure → String
  | .authentication scope message => s!"authentication to '{scope}' failed: {message}"
  | .grant username database message =>
    s!"failed to grant user '{username}' on database '{database}': {message}"
  | .marker database collection message =>
    s!"failed to seed marker in '{database}.{collection}': {message}"
  | .verification username database message =>
    s!"login verification for user '{username}' on database '{database}' failed: {message}"
  | .input message => s!"invalid bootstrap input: {message}"
  | .datastore operation message => s!"datastore error during {operation}: {message}"

def shown (failure : Failure) : String :=
  Text.record failure.name (failure.parts.map fun (label, text) => (label, Text.quoted text))

/-- A fault that has no stage of its own, under the operation it struck. -/
def ofFault (operation : String) (fault : Fault) : Failure :=
  .datastore operation fault.message

end Failure

end Provision
