import Provision.Account.Check
import Provision.Session
/-!
Provisioning a database: one application account and, if planned, one version marker.

Everything is looked up before it is written, and a writer that finds its work done meanwhile takes
that for success. So a run may be repeated, and runs may race.
-/

namespace Provision

structure Request where
  /-- The database the administrator logs in against. -/
  scope : String
  admin : Credentials
  target : String
  account : Account
  plan : MarkerPlan
  /-- The time that a seeded marker is stamped with. -/
  stamp : Int64

def ensureUser (account : Account) : Program Calls (Except Failure UserOutcome) :=
  let failed (fault : Fault) : Failure := .grant account.username account.database fault.message
  .perform (.userExists account.database account.username) fun
    | .error fault => .done (.error (failed fault))
    | .ok true =>
      .emit (.userPresent account.database account.username) (.done (.ok .alreadyPresent))
    | .ok false => .perform (.createUser account) fun
      | .ok () => .emit (.userCreated account.database account.username account.grants)
          (.done (.ok .created))
      | .error fault =>
        if fault.isAlreadyExists then
          .emit (.userCreatedMeanwhile account.database account.username)
            (.done (.ok .alreadyPresent))
        else .done (.error (failed fault))

/-- Inserts a marker into a collection that was seen to hold no document. -/
def seedMarker (database collection : String) (marker : Marker) :
    Program Calls (Except Failure MarkerOutcome) :=
  .perform (.insertMarker database collection marker) fun
    | .ok () => .emit (.markerSeeded database collection marker.version marker.stamp)
        (.done (.ok .seeded))
    | .error fault =>
      if fault.isAlreadyExists then
        .emit (.markerSeededMeanwhile database collection) (.done (.ok .alreadyPresent))
      else .done (.error (.marker database collection fault.message))

/-- Seeds a marker unless the collection holds a document, which then counts as the marker. -/
def ensureMarker (database collection version : String) (stamp : Int64) :
    Program Calls (Except Failure MarkerOutcome) :=
  let failed (message : String) : Except Failure MarkerOutcome :=
    .error (.marker database collection message)
  let seed := seedMarker database collection (.fresh version stamp)
  if collection.isEmpty then .done (failed "collection name must not be empty")
  else if version.isEmpty then .done (failed "marker version must not be empty")
  else .perform (.findMarker database collection) fun
    | .error fault => .done (failed fault.message)
    | .ok (some marker) =>
      .emit (.markerPresent database collection marker.version marker.migrated)
        (.done (.ok .alreadyPresent))
    | .ok none => .perform (.ensureCollection database collection) fun
      | .ok () => .emit (.collectionCreated database collection) seed
      | .error fault => if fault.isAlreadyExists then seed else .done (failed fault.message)

theorem ensureMarker_of_named {database collection version : String} (stamp : Int64)
    (named : collection ≠ "") (versioned : version ≠ "") :
    ensureMarker database collection version stamp =
      .perform (.findMarker database collection) fun
        | .error fault => .done (.error (.marker database collection fault.message))
        | .ok (some marker) =>
          .emit (.markerPresent database collection marker.version marker.migrated)
            (.done (.ok .alreadyPresent))
        | .ok none => .perform (.ensureCollection database collection) fun
          | .ok () => .emit (.collectionCreated database collection)
              (seedMarker database collection (.fresh version stamp))
          | .error fault =>
            if fault.isAlreadyExists then
              seedMarker database collection (.fresh version stamp)
            else .done (.error (.marker database collection fault.message)) := by
  have nameFound : ¬collection.isEmpty = true := by simpa using named
  have versionFound : ¬version.isEmpty = true := by simpa using versioned
  simp only [ensureMarker, if_neg nameFound, if_neg versionFound]

def applyPlan (target : String) (plan : MarkerPlan) (stamp : Int64) :
    Program Calls (Except Failure MarkerOutcome) :=
  match plan with
  | .skip => .emit .markerSkipped (.done (.ok .skipped))
  | .seed collection version => ensureMarker target collection version stamp

namespace Request

/-- What a run does on the administrator's session: check, then the user, then the marker. The
first failure ends it. -/
def body (request : Request) : Program Calls (Except Failure Report) :=
  match request.account.check request.target with
  | .error failure => .done (.error failure)
  | .ok () => (ensureUser request.account).bind fun
    | .error failure => .done (.error failure)
    | .ok user => (applyPlan request.target request.plan request.stamp).bind fun
      | .error failure => .done (.error failure)
      | .ok marker => .done (.ok ⟨user, marker⟩)

/-- One provisioning run. Its last event tells how it ended, unless no session was opened. -/
def provision {S : Type} (request : Request) : Program (Store S) (Except Failure Report) :=
  .emit (.runStarted request.scope request.target request.account.username)
    ((withSession .provision request.scope request.admin request.body).bind fun
      | .error fault => .done (.error (adminRefused request.scope fault))
      | .ok (.ok report) =>
        .emit (.runFinished request.target request.account.username report) (.done (.ok report))
      | .ok (.error failure) =>
        .emit (.runFailed request.target failure) (.done (.error failure)))

end Request

end Provision
