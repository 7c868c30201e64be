import Provision.Account
import Provision.Failure
import Provision.Report
import Provision.Text.Terminal
/-!
The log: what an operator can read of a run.

Every event carries the facts it reports, so that what happened can be reasoned about before it is
put into words. In words an event is a level, a message in the style "key=value" and named fields.
No event holds a password.
-/

namespace Provision

inductive Level where
  | debug
  | info
  | warn
  | error
deriving DecidableEq

namespace Level

def rank : Level → Nat
  | .debug => 0
  | .info => 1
  | .warn => 2
  | .error => 3

def name : Level → String
  | .debug => "DEBUG"
  | .info => "INFO"
  | .warn => "WARN"
  | .error => "ERROR"

end Level

inductive Operation where
  | provision
  | verifyLogin
  | inspect
deriving DecidableEq

def Operation.name : Operation → String
  | .provision => "bootstrap"
  | .verifyLogin => "verify_login"
  | .inspect => "inspect"

inductive Event where
  | commandStarted (command : Command) (address target : String)
  | commandFinished (target username : String) (report : Report)
  | runStarted (scope target username : String)
  | runFinished (target username : String) (report : Report)
  | runFailed (target : String) (failure : Failure)
  | closeFailed (operation : Operation) (fault : Fault)
  | userPresent (database username : String)
  | userCreated (database username : String) (grants : List Grant)
  /-- Another run created the user between the look-up and the creation. -/
  | userCreatedMeanwhile (database username : String)
  | markerSkipped
  | markerPresent (database collection version : String) (migrated : Bool)
  | collectionCreated (database collection : String)
  | markerSeeded (database collection version : String) (stamp : Int64)
  /-- Another run seeded the marker between the look-up and the insertion. -/
  | markerSeededMeanwhile (database collection : String)
  | loginVerified (target username : String)
  | loginNotVerified
  | statusReported (target : String) (report : DatabaseReport)
  | attemptFailed (attempt limit : Nat) (interval : UInt64) (fault : Fault)
  | attemptSucceeded (attempts : Nat) (interval : UInt64)
  | sessionOpened (address scope username : String)
deriving DecidableEq

namespace Event

def level : Event → Level
  | .markerSkipped | .collectionCreated .. | .sessionOpened .. => .debug
  | .runFailed .. | .closeFailed .. | .attemptFailed .. => .warn
  | _ => .info

/-- The part of the program that reports the event, as log filters name it. -/
def origin : Event → String
  | .commandFinished .. => "bootstrap"
  | .commandStarted .. | .loginNotVerified | .statusReported .. | .attemptFailed ..
  | .attemptSucceeded .. => "db_infra::infra::mongo::core"
  | .sessionOpened .. => "db_infra::infra::mongo::store"
  | _ => "bootstrap::bootstrapper"

def userWords : UserOutcome → String
  | .created => "created"
  | .alreadyPresent => "already present"

def markerWords : MarkerOutcome → String
  | .skipped => "skipped"
  | .seeded => "seeded"
  | .alreadyPresent => "already present"

def message : Event → String
  | .commandStarted command address target =>
    "bootstrap=orchestrate command=" ++ command.shown ++ s!" address={address} target_db={target}"
  | .commandFinished target username report =>
    s!"bootstrap=done target_db={target} username={username}"
      ++ " user=" ++ Text.quoted (userWords report.user)
      ++ " marker=" ++ Text.quoted (markerWords report.marker)
  | .runStarted scope target username =>
    s!"bootstrap=start scope={scope} target_db={target} username={username}"
  | .runFinished target username _ => s!"bootstrap=done target_db={target} username={username}"
  | .runFailed target _ => s!"bootstrap=failed target_db={target}"
  | .closeFailed .. => "Failed to close datastore session"
  | .userPresent database username => s!"user=present target_db={database} username={username}"
  | .userCreated database username _ => s!"user=created target_db={database} username={username}"
  | .userCreatedMeanwhile database username =>
    s!"user=present target_db={database} username={username} reason=concurrent_create"
  | .markerSkipped => "marker=skipped"
  | .markerPresent database collection _ _ =>
    s!"marker=present db={database} collection={collection}"
  | .collectionCreated database collection =>
    s!"collection=created db={database} collection={collection}"
  | .markerSeeded database collection _ _ => s!"marker=seeded db={database} collection={collection}"
  | .markerSeededMeanwhile database collection =>
    s!"marker=present db={database} collection={collection} reason=concurrent_insert"
  | .loginVerified target username => s!"verify=ok target_db={target} username={username}"
  | .loginNotVerified => "verify=skipped"
  | .statusReported target _ => s!"status=done target_db={target}"
  | .attemptFailed attempt limit interval _ =>
    s!"connection_retry=failed attempt={attempt} max_attempts={limit} interval_ms={interval}"
  | .attemptSucceeded attempts interval =>
    s!"connection_retry=success attempts={attempts} interval_ms={interval}"
  | .sessionOpened address scope username =>
    s!"session=open address={address} scope={scope} username={username}"

def fields : Event → List (String × String)
  | .runFinished _ _ report => [("user", report.user.shown), ("marker", report.marker.shown)]
  | .runFailed _ failure => [("error", failure.message)]
  | .closeFailed operation fault => [("error", fault.message), ("operation", operation.name)]
  | .userCreated _ _ grants =>
    [("roles", Text.listing (grants.map fun grant => Text.quoted grant.written))]
  | .markerPresent _ _ version migrated =>
    [("existing_version", version), ("migrated", Text.truth migrated)]
  | .markerSeeded _ _ version stamp => [("version", version), ("at", toString stamp.toInt)]
  | .statusReported _ report =>
    [("server_version", report.serverVersion),
      ("collections", Text.listing (report.collections.map Text.quoted)),
      ("marker", Text.optional (report.marker.map Marker.shown))]
  | .attemptFailed _ _ _ fault => [("error", fault.message)]
  | _ => []

/-- The event on one line: the level in five columns, the message without anything that a terminal
acts on, the fields. -/
def line (event : Event) : String :=
  let level := event.level.name
  String.ofList (List.replicate (5 - level.length) ' ') ++ level ++ " "
    ++ Text.disarmed event.message
    ++ String.join (event.fields.map fun (label, value) => s!" {label}={value}")

end Event

end Provision
