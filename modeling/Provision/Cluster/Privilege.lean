import Provision.Grant
import Provision.Store
/-!
Privileges: what the grants of a session allow.

A privilege on a database comes from a role held on that database, or from one of the stronger
roles held on the administrative database, which reach every database.
-/

namespace Provision

def builtinRoles : List String :=
  ["read", "readWrite", "dbAdmin", "dbOwner", "userAdmin", "root", "userAdminAnyDatabase",
    "readWriteAnyDatabase", "dbAdminAnyDatabase"]

inductive Privilege where
  | manageUsers
  | read
  | write
deriving DecidableEq

namespace Privilege

def roles : Privilege → List String
  | .manageUsers => ["dbOwner", "userAdmin", "root"]
  | .read => ["read", "readWrite", "dbOwner", "root"]
  | .write => ["readWrite", "dbOwner", "root"]

/-- The roles that give the privilege everywhere when held on the administrative database. -/
def rolesEverywhere : Privilege → List String
  | .manageUsers => ["root", "userAdminAnyDatabase"]
  | .read => ["root", "readWriteAnyDatabase"]
  | .write => ["root", "readWriteAnyDatabase"]

def purpose : Privilege → String
  | .manageUsers => "to manage users"
  | .read => "to read"
  | .write => "to write"

end Privilege

def Grant.gives (grant : Grant) (privilege : Privilege) (database : String) : Bool :=
  grant.database = database && grant.role ∈ privilege.roles ||
    grant.database = "admin" && grant.role ∈ privilege.rolesEverywhere

/-- The privilege a call needs and the database it needs it on. The server's version is told to
everyone. -/
def Call.needs : Call → Option (Privilege × String)
  | .userExists database _ => some (.manageUsers, database)
  | .createUser account => some (.manageUsers, account.database)
  | .ensureCollection database _ => some (.write, database)
  | .findMarker database _ => some (.read, database)
  | .insertMarker database _ _ => some (.write, database)
  | .serverVersion => none
  | .listCollections database => some (.read, database)

end Provision
