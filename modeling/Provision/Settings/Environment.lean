/-!
The environment: named texts, of which an empty one counts as not set.
-/

namespace Provision

inductive Variable where
  | host
  | portNumber
  | adminDatabase
  | adminUsername
  | adminPassword
  | database
  | username
  | password
  | roles
  | marker
  | markerVersion
  | markerCollection
  | verifyLogin
  | appName
deriving DecidableEq

namespace Variable

def name : Variable → String
  | .host => "MONGO_HOST"
  | .portNumber => "MONGO_PORT"
  | .adminDatabase => "MONGO_ADMIN_DATABASE"
  | .adminUsername => "MONGO_ADMIN_USERNAME"
  | .adminPassword => "MONGO_ADMIN_PASSWORD"
  | .database => "MONGO_DATABASE"
  | .username => "MONGO_USERNAME"
  | .password => "MONGO_PASSWORD"
  | .roles => "MONGO_ROLES"
  | .marker => "BOOTSTRAP_MARKER"
  | .markerVersion => "BOOTSTRAP_MARKER_VERSION"
  | .markerCollection => "BOOTSTRAP_MARKER_COLLECTION"
  | .verifyLogin => "BOOTSTRAP_VERIFY_LOGIN"
  | .appName => "BOOTSTRAP_APP_NAME"

def all : List Variable :=
  [.host, .portNumber, .adminDatabase, .adminUsername, .adminPassword, .database, .username,
    .password, .roles, .marker, .markerVersion, .markerCollection, .verifyLogin, .appName]

theorem mem_all (v : Variable) : v ∈ all := by
  cases v <;> decide

theorem name_injective {v w : Variable} (same : v.name = w.name) : v = w := by
  have distinct : ∀ v ∈ all, ∀ w ∈ all, v.name = w.name → v = w := by decide
  exact distinct v (mem_all v) w (mem_all w) same

end Variable

abbrev Environment : Type := String → Option String

namespace Environment

/-- The value of a variable that is set to more than the empty text. -/
def value (env : Environment) (v : Variable) : Option String :=
  (env v.name).filter fun text => !text.isEmpty

def valueOr (env : Environment) (v : Variable) (default : String) : String :=
  (env.value v).getD default

def set (env : Environment) (v : Variable) (text : Option String) : Environment :=
  fun name => if name = v.name then text else env name

end Environment

end Provision
