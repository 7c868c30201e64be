import Provision.Account
import Provision.Failure
import Provision.Text.Blank
/-!
Checking an account before anything is asked of the datastore.

An account that passes names the database being provisioned, has a username, and holds at least one
grant whose two names are not blank. A rejected one never leaves a half-configured user behind,
because nothing has been written yet.
-/

namespace Provision

inductive Rejection where
  | emptyTarget
  | otherTarget (database target : String)
  | emptyUsername
  | noGrants
  | malformedGrant (grant : Grant)
deriving DecidableEq

/-- An empty or foreign target is the caller's mistake; the rest concerns the grants to be made. -/
def Rejection.failure (target username : String) : Rejection → Failure
  | .emptyTarget => .input "target database name must not be empty"
  | .otherTarget database target =>
    .input s!"user spec targets database '{database}' but bootstrap targets '{target}'"
  | .emptyUsername => .grant username target "username must not be empty"
  | .noGrants => .grant username target "at least one role grant is required"
  | .malformedGrant ⟨role, database⟩ =>
    .grant username target s!"malformed role grant: role='{role}' db='{database}'"

def Grant.isMalformed (grant : Grant) : Bool :=
  Text.isBlankText grant.role || Text.isBlankText grant.database

namespace Account

def rejection (target : String) (account : Account) : Option Rejection :=
  if target.isEmpty then some .emptyTarget
  else if account.database ≠ target then some (.otherTarget account.database target)
  else if account.username.isEmpty then some .emptyUsername
  else if account.grants.isEmpty then some .noGrants
  else (account.grants.find? Grant.isMalformed).map .malformedGrant

def check (target : String) (account : Account) : Except Failure Unit :=
  match account.rejection target with
  | none => .ok ()
  | some reason => .error (reason.failure target account.username)

end Account

end Provision
