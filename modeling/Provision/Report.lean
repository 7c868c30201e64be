import Provision.Marker
/-!
What a successful operation reports.
-/

namespace Provision

inductive UserOutcome where
  | created
  | alreadyPresent
deriving DecidableEq

inductive MarkerOutcome where
  | skipped
  | seeded
  | alreadyPresent
deriving DecidableEq

def UserOutcome.shown : UserOutcome → String
  | .created => "Created"
  | .alreadyPresent => "AlreadyPresent"

def MarkerOutcome.shown : MarkerOutcome → String
  | .skipped => "Skipped"
  | .seeded => "Seeded"
  | .alreadyPresent => "AlreadyPresent"

/-- What a provisioning run did. Success means that the database is as requested; the report tells
a first run from a later one. -/
structure Report where
  user : UserOutcome
  marker : MarkerOutcome
deriving DecidableEq

structure DatabaseReport where
  serverVersion : String
  collections : List String
  marker : Option Marker
deriving DecidableEq

inductive Command where
  /-- Provision the database and check the new login. -/
  | up
  /-- Look without changing anything. -/
  | status
deriving DecidableEq

def Command.shown : Command → String
  | .up => "Up"
  | .status => "Status"

inductive Outcome where
  | provisioned (report : Report)
  | status (report : DatabaseReport)
deriving DecidableEq

end Provision
