import Provision.Distinct
import Provision.Text.Order
import Provision.Text.Record
/-!
Role grants.

A grant names a role and the database it holds on, and is written as the role, an at sign and the
database.
-/

namespace Provision

structure Grant where
  role : String
  database : String
deriving DecidableEq

namespace Grant

def written (grant : Grant) : String :=
  grant.role ++ "@" ++ grant.database

def shown (grant : Grant) : String :=
  Text.record "RoleGrant"
    [("role", Text.quoted grant.role), ("database", Text.quoted grant.database)]

/-- Grants are ordered by role and then by database. -/
def notAfter (left right : Grant) : Bool :=
  !decide (Text.Earlier (right.role, right.database) (left.role, left.database))

def normalized (grants : List Grant) : List Grant :=
  distinct (grants.mergeSort notAfter)

end Grant

end Provision
