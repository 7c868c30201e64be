import Provision.Account
import Provision.Address
import Provision.Grant.Parser
import Provision.Marker
import Provision.Settings.Fault
import Provision.Settings.Words
/-!
Settings: everything one command needs, resolved before anything is done.

Settings are read from an environment in a fixed order, and the first fault found is reported. The
marker plan may be replaced afterwards; a replacement that is refused leaves the settings alone.
-/

namespace Provision

structure ServerSettings where
  host : String
  portNumber : UInt16
  adminDatabase : String
  admin : Credentials
  appName : String
  /-- How long to look for a server, in seconds. -/
  patience : Nat
  attempts : UInt32
  /-- The pause between two attempts, in milliseconds. -/
  interval : UInt64
deriving DecidableEq

structure Settings where
  server : ServerSettings
  target : String
  account : Account
  plan : MarkerPlan
  markerCollection : String
  verifyLogin : Bool
deriving DecidableEq

def defaultPortNumber : UInt16 := 27017

namespace ServerSettings

/-- The server's address, which holds no credentials and may be logged. -/
def address (server : ServerSettings) : String :=
  Address.scheme ++ server.host ++ ":" ++ toString server.portNumber.toNat ++ "/"

def shown (server : ServerSettings) : String :=
  Text.record "MongoSettings"
    [("host", Text.quoted server.host), ("port", toString server.portNumber.toNat),
      ("admin_database", Text.quoted server.adminDatabase), ("admin", server.admin.shown),
      ("app_name", Text.quoted server.appName),
      ("server_selection_timeout", toString server.patience ++ "s"),
      ("connect_attempts", toString server.attempts.toNat),
      ("connect_interval_ms", toString server.interval.toNat)]

end ServerSettings

namespace Environment

def required (env : Environment) (v : Variable) : Except SettingsFault String :=
  match env.value v with
  | none => .error (.missing v)
  | some text => .ok text

def readPortNumber (env : Environment) : Except SettingsFault UInt16 :=
  match env.value .portNumber with
  | none => .ok defaultPortNumber
  | some text => match Provision.readPortNumber text with
    | none => .error (.malformedPortNumber text)
    | some number => .ok number

/-- The grants of the account; without a role list it owns its database. -/
def readGrants (env : Environment) (target : String) : Except SettingsFault (List Grant) :=
  (Grant.parse target (env.valueOr .roles "dbOwner")).mapError .malformedGrant

/-- A switch may be written in any case and between blanks; a refused one is reported as given. -/
def readSwitch (env : Environment) (v : Variable) (default : Bool) : Except SettingsFault Bool :=
  match env.value v with
  | none => .ok default
  | some text => match Provision.readSwitch (Text.lowered (Text.trim text)) with
    | none => .error (.malformedSwitch v text)
    | some value => .ok value

end Environment

/-- The plan for a mode in any case and between blanks. Seeding needs a version that is not
blank. -/
def MarkerPlan.resolve (mode : String) (version : Option String) (collection : String) :
    Except SettingsFault MarkerPlan :=
  let word := Text.lowered (Text.trim mode)
  match MarkerMode.ofWord word with
  | none => .error (.unknownMode word)
  | some .skip => .ok .skip
  | some .seed => match version.filter fun text => !Text.isBlankText text with
    | none => .error .versionMissing
    | some text => .ok (.seed collection text)

def MarkerPlan.version : MarkerPlan → Option String
  | .skip => none
  | .seed _ version => some version

namespace Settings

/-- Reads all settings. Faults are found in this order: port number, administrator, database, roles,
account, marker, login check. -/
def load (env : Environment) : Except SettingsFault Settings := do
  let portNumber ← env.readPortNumber
  let adminUsername ← env.required .adminUsername
  let adminPassword ← env.required .adminPassword
  let target ← env.required .database
  let grants ← env.readGrants target
  let username ← env.required .username
  let password ← env.required .password
  let markerCollection := env.valueOr .markerCollection "description"
  let plan ← MarkerPlan.resolve (env.valueOr .marker "skip") (env.value .markerVersion)
    markerCollection
  let verifyLogin ← env.readSwitch .verifyLogin true
  return {
    server := {
      host := env.valueOr .host "localhost"
      portNumber
      adminDatabase := env.valueOr .adminDatabase "admin"
      admin := ⟨adminUsername, adminPassword⟩
      appName := env.valueOr .appName "bootstrap"
      patience := 5
      attempts := 5
      interval := 500 }
    target
    account := ⟨username, password, target, grants⟩
    plan
    markerCollection
    verifyLogin }

/-- Replaces the marker plan. A version left out is that of the plan being replaced. -/
def overrideMarker (settings : Settings) (mode : String) (version : Option String) :
    Except SettingsFault Settings :=
  (MarkerPlan.resolve mode (version.or settings.plan.version) settings.markerCollection).map
    fun plan => { settings with plan }

def shown (settings : Settings) : String :=
  Text.record "BootstrapSettings"
    [("mongo", settings.server.shown), ("target_database", Text.quoted settings.target),
      ("user", settings.account.shown), ("marker", settings.plan.shown),
      ("marker_collection", Text.quoted settings.markerCollection),
      ("verify_login", Text.truth settings.verifyLogin)]

end Settings

end Provision
