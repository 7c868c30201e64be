import Provision.Cluster.Privilege
import Provision.Cluster.Table
/-!
A cluster in memory: users, collections, access control and unique identifiers.

Every step is one move of a value. A call first meets a fault injected for it, then the privileges
of its session, and only then the store; a call that is refused changes nothing. Sessions carry the
grants their user had when they were opened.
-/

namespace Provision

inductive FaultPoint where
  | userExists
  | createUser
  | ensureCollection
  | findMarker
  | insertMarker
  | serverVersion
  | listCollections
  | close
deriving DecidableEq

def Call.faultPoint : Call → FaultPoint
  | .userExists .. => .userExists
  | .createUser _ => .createUser
  | .ensureCollection .. => .ensureCollection
  | .findMarker .. => .findMarker
  | .insertMarker .. => .insertMarker
  | .serverVersion => .serverVersion
  | .listCollections _ => .listCollections

/-- A stored user: the key holds its database and name. -/
structure User where
  password : String
  grants : List Grant
deriving DecidableEq

structure Record where
  identifier : String
  marker : Marker
deriving DecidableEq

structure Cluster where
  users : Table User := .empty
  collections : Table (List Record) := .empty
  faults : FaultPoint → Option Fault := fun _ => none
  openSessions : Nat := 0
  /-- How many users, collections and documents were written through sessions. -/
  writes : Nat := 0

inductive Refusal where
  | wrongCredentials (username scope : String)
  | lacksPrivilege (privilege : Privilege) (database : String)
  | unknownRole (written : String)
  | userExists (username database : String)
  | collectionExists (database collection : String)
  | markerExists (database collection : String)
deriving DecidableEq

def Refusal.fault : Refusal → Fault
  | .wrongCredentials username scope =>
    ⟨.authenticationFailed, s!"Authentication failed for '{username}' on '{scope}'"⟩
  | .lacksPrivilege privilege database =>
    ⟨.unauthorized, s!"not authorized on {database} " ++ privilege.purpose⟩
  | .unknownRole written => ⟨.other, "No role named " ++ written⟩
  | .userExists username database =>
    ⟨.alreadyExists, "User \"" ++ username ++ "@" ++ database ++ "\" already exists"⟩
  | .collectionExists database collection =>
    ⟨.alreadyExists, s!"Collection {database}.{collection} already exists"⟩
  | .markerExists database collection =>
    ⟨.alreadyExists,
      s!"E11000 duplicate key error collection: {database}.{collection} dup key: "
        ++ "\x7b _id: \"" ++ Marker.identifier ++ "\" \x7d"⟩

namespace Cluster

/-- What a session carries: the grants of its user. -/
abbrev Session : Type := List Grant

def Session.holds (session : Session) (privilege : Privilege) (database : String) : Bool :=
  session.any fun grant => grant.gives privilege database

def Session.refusal (session : Session) (call : Call) : Option Refusal :=
  match call.needs with
  | none => none
  | some (privilege, database) =>
    if session.holds privilege database then none else some (.lacksPrivilege privilege database)

def version : String := "7.0.0-memory"

/-- A cluster whose only user is an administrator. -/
def withRoot (scope : String) (root : Credentials) : Cluster where
  users := Table.empty.insert (scope, root.username) ⟨root.password, [⟨"root", scope⟩]⟩

/-- Makes every later call at a point fail. -/
def inject (cluster : Cluster) (point : FaultPoint) (fault : Fault) : Cluster :=
  { cluster with faults := fun other => if other = point then some fault else cluster.faults other }

def clearFaults (cluster : Cluster) : Cluster :=
  { cluster with faults := fun _ => none }

def hasUser (cluster : Cluster) (database username : String) : Bool :=
  cluster.users.contains (database, username)

def userCount (cluster : Cluster) (database username : String) : Nat :=
  if cluster.hasUser database username then 1 else 0

def userGrants (cluster : Cluster) (database username : String) : Option (List Grant) :=
  (cluster.users.find? (database, username)).map User.grants

def hasCollection (cluster : Cluster) (database collection : String) : Bool :=
  cluster.collections.contains (database, collection)

def records (cluster : Cluster) (database collection : String) : List Record :=
  (cluster.collections.find? (database, collection)).getD []

def documents (cluster : Cluster) (database collection : String) : List Marker :=
  (cluster.records database collection).map Record.marker

/-- Makes the entry of a collection, with the documents that it holds if it is there already. -/
def enter (cluster : Cluster) (database collection : String) : Cluster :=
  let records := cluster.records database collection
  { cluster with collections := cluster.collections.insert (database, collection) records }

def append (cluster : Cluster) (database collection : String) (record : Record) : Cluster :=
  let records := cluster.records database collection ++ [record]
  { cluster with collections := cluster.collections.insert (database, collection) records }

def wrote (cluster : Cluster) : Cluster :=
  { cluster with writes := cluster.writes + 1 }

/-- The least written form among the grants of unknown roles. -/
def unknownRole (grants : List Grant) : Option String :=
  (Text.sorted ((grants.filter fun grant => grant.role ∉ builtinRoles).map Grant.written)).head?

def createUser (cluster : Cluster) (account : Account) : Except Refusal Cluster :=
  match unknownRole account.grants with
  | some written => .error (.unknownRole written)
  | none =>
    if cluster.hasUser account.database account.username then
      .error (.userExists account.username account.database)
    else
      let user : User := ⟨account.password, account.grants⟩
      .ok { cluster with
        users := cluster.users.insert (account.database, account.username) user
        writes := cluster.writes + 1 }

def createCollection (cluster : Cluster) (database collection : String) : Except Refusal Cluster :=
  if cluster.hasCollection database collection then
    .error (.collectionExists database collection)
  else .ok { cluster with
    collections := cluster.collections.insert (database, collection) []
    writes := cluster.writes + 1 }

/-- The answer to a write: the new cluster, or the refusal and the old one. -/
def settle (cluster : Cluster) (result : Except Refusal Cluster) : Except Fault Unit × Cluster :=
  match result with
  | .error refusal => (.error refusal.fault, cluster)
  | .ok next => (.ok (), next)

/-- Inserts a marker under the identifier of markers. The collection has its entry before its
documents are looked through. -/
def insertMarker (cluster : Cluster) (database collection : String) (marker : Marker) :
    Except Fault Unit × Cluster :=
  let entered := cluster.enter database collection
  if (entered.records database collection).any fun record =>
      decide (record.identifier = Marker.identifier) then
    (.error (Refusal.markerExists database collection).fault, entered)
  else (.ok (), (entered.append database collection ⟨Marker.identifier, marker⟩).wrote)

def execute (cluster : Cluster) : (call : Call) → Except Fault call.Answer × Cluster
  | .userExists database username => (.ok (cluster.hasUser database username), cluster)
  | .createUser account => cluster.settle (cluster.createUser account)
  | .ensureCollection database collection =>
    cluster.settle (cluster.createCollection database collection)
  | .findMarker database collection => (.ok (cluster.documents database collection).head?, cluster)
  | .insertMarker database collection marker =>
    cluster.insertMarker database collection marker
  | .serverVersion => (.ok version, cluster)
  | .listCollections database => (.ok (cluster.collections.names database), cluster)

def answer (cluster : Cluster) (session : Session) (call : Call) :
    Except Fault call.Answer × Cluster :=
  match cluster.faults call.faultPoint with
  | some fault => (.error fault, cluster)
  | none => match session.refusal call with
    | some refusal => (.error refusal.fault, cluster)
    | none => cluster.execute call

def openSession (cluster : Cluster) (scope : String) (credentials : Credentials) :
    Except Fault Session × Cluster :=
  let refused := (.error (Refusal.wrongCredentials credentials.username scope).fault, cluster)
  match cluster.users.find? (scope, credentials.username) with
  | none => refused
  | some user =>
    if user.password = credentials.password then
      (.ok user.grants, { cluster with openSessions := cluster.openSessions + 1 })
    else refused

/-- Closes a session. It is gone even if the close is answered with a fault. -/
def close (cluster : Cluster) : Except Fault Unit × Cluster :=
  let closed := { cluster with openSessions := cluster.openSessions - 1 }
  match cluster.faults .close with
  | some fault => (.error fault, closed)
  | none => (.ok (), closed)

def handler : Handler (Store Session) Cluster
  | .openSession scope credentials, cluster => cluster.openSession scope credentials
  | .call session call, cluster => cluster.answer session call
  | .close _, cluster => cluster.close

end Cluster

end Provision
