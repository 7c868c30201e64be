import Mathlib
import Provision.Settings
/-!
What settings are read from.

All settings but the marker plan come from variables of their own, so they are the same in every
environment that differs in the marker's variables only. The plan is resolved among them, and an
environment whose own plan does not stand gives no settings at all.
-/

namespace Provision

theorem Except.bind_eq_ok_iff {ε α β : Type} {first : Except ε α} {next : α → Except ε β}
    {result : β} :
    first >>= next = .ok result ↔ ∃ value, first = .ok value ∧ next value = .ok result := by
  cases first <;> simp [bind, Except.bind]

namespace Environment

variable {env other : Environment} {settings base : Settings}

theorem value_set_self (env : Environment) (v : Variable) (text : Option String) :
    (env.set v text).value v = text.filter fun text => !text.isEmpty := by
  simp [value, set]

theorem value_set_of_ne {v w : Variable} (differ : w ≠ v) (text : Option String) :
    (env.set v text).value w = env.value w := by
  have names : w.name ≠ v.name := fun same => differ (Variable.name_injective same)
  simp [value, set, names]

section

variable {v : Variable} (same : other.value v = env.value v)
include same

theorem valueOr_congr (default : String) : other.valueOr v default = env.valueOr v default := by
  unfold valueOr
  rw [same]

theorem required_congr : other.required v = env.required v := by
  unfold required
  rw [same]

theorem readSwitch_congr (default : Bool) :
    other.readSwitch v default = env.readSwitch v default := by
  unfold readSwitch
  rw [same]

end

theorem readPortNumber_congr (same : other.value .portNumber = env.value .portNumber) :
    other.readPortNumber = env.readPortNumber := by
  unfold readPortNumber
  rw [same]

theorem readGrants_congr (same : other.value .roles = env.value .roles) (target : String) :
    other.readGrants target = env.readGrants target := by
  unfold readGrants
  rw [valueOr_congr same]

def withMarker (env : Environment) (mode version : Option String) : Environment :=
  (env.set .marker mode).set .markerVersion version

theorem value_withMarker {v : Variable} (mode version : Option String) (notMode : v ≠ .marker)
    (notVersion : v ≠ .markerVersion) : (env.withMarker mode version).value v = env.value v :=
  (value_set_of_ne notVersion version).trans (value_set_of_ne notMode mode)

/-- All settings but the marker plan are what the environment says. -/
structure Gives (env : Environment) (settings : Settings) : Prop where
  host : settings.server.host = env.valueOr .host "localhost"
  portNumber : env.readPortNumber = .ok settings.server.portNumber
  adminDatabase : settings.server.adminDatabase = env.valueOr .adminDatabase "admin"
  adminUsername : env.required .adminUsername = .ok settings.server.admin.username
  adminPassword : env.required .adminPassword = .ok settings.server.admin.password
  appName : settings.server.appName = env.valueOr .appName "bootstrap"
  fixed : settings.server.patience = 5 ∧ settings.server.attempts = 5 ∧
    settings.server.interval = 500
  target : env.required .database = .ok settings.target
  username : env.required .username = .ok settings.account.username
  password : env.required .password = .ok settings.account.password
  home : settings.account.database = settings.target
  grants : env.readGrants settings.target = .ok settings.account.grants
  markerCollection : settings.markerCollection = env.valueOr .markerCollection "description"
  verifyLogin : env.readSwitch .verifyLogin true = .ok settings.verifyLogin

def plan (env : Environment) (collection : String) : Except SettingsFault MarkerPlan :=
  MarkerPlan.resolve (env.valueOr .marker "skip") (env.value .markerVersion) collection

theorem Gives.made (gives : env.Gives base) (plan : MarkerPlan) :
    ({ server := {
          host := env.valueOr .host "localhost"
          portNumber := base.server.portNumber
          adminDatabase := env.valueOr .adminDatabase "admin"
          admin := ⟨base.server.admin.username, base.server.admin.password⟩
          appName := env.valueOr .appName "bootstrap"
          patience := 5
          attempts := 5
          interval := 500 }
       target := base.target
       account :=
        ⟨base.account.username, base.account.password, base.target, base.account.grants⟩
       plan
       markerCollection := base.markerCollection
       verifyLogin := base.verifyLogin } : Settings) = { base with plan } := by
  obtain ⟨patience, attempts, interval⟩ := gives.fixed
  have account : (⟨base.account.username, base.account.password, base.target,
      base.account.grants⟩ : Account) = base.account := by
    rw [← gives.home]
  rw [account, ← gives.host, ← gives.adminDatabase, ← gives.appName, ← patience, ← attempts,
    ← interval]

/-- Only the plan can still be at fault. -/
theorem Gives.load (gives : env.Gives base) :
    Settings.load env = (env.plan base.markerCollection).map fun plan => { base with plan } := by
  unfold Settings.load
  simp only [gives.portNumber, gives.adminUsername, gives.adminPassword, gives.target,
    gives.grants, gives.username, gives.password, ← gives.markerCollection, gives.verifyLogin,
    bind, Except.bind, pure, Except.pure]
  rw [← plan]
  cases env.plan base.markerCollection with
  | error fault => rfl
  | ok plan => exact congrArg Except.ok (gives.made plan)

theorem load_eq_ok_iff :
    Settings.load env = .ok settings ↔
      env.Gives settings ∧ env.plan settings.markerCollection = .ok settings.plan := by
  constructor
  · intro loaded
    unfold Settings.load at loaded
    obtain ⟨portNumber, portRead, loaded⟩ := Except.bind_eq_ok_iff.1 loaded
    obtain ⟨adminUsername, adminNamed, loaded⟩ := Except.bind_eq_ok_iff.1 loaded
    obtain ⟨adminPassword, adminSecret, loaded⟩ := Except.bind_eq_ok_iff.1 loaded
    obtain ⟨target, targeted, loaded⟩ := Except.bind_eq_ok_iff.1 loaded
    obtain ⟨grants, granted, loaded⟩ := Except.bind_eq_ok_iff.1 loaded
    obtain ⟨username, named, loaded⟩ := Except.bind_eq_ok_iff.1 loaded
    obtain ⟨password, secret, loaded⟩ := Except.bind_eq_ok_iff.1 loaded
    obtain ⟨plan, planned, loaded⟩ := Except.bind_eq_ok_iff.1 loaded
    obtain ⟨verifyLogin, switched, loaded⟩ := Except.bind_eq_ok_iff.1 loaded
    obtain rfl := Except.ok.inj loaded
    exact ⟨⟨rfl, portRead, rfl, adminNamed, adminSecret, rfl, ⟨rfl, rfl, rfl⟩, targeted, named,
      secret, rfl, granted, rfl, switched⟩, planned⟩
  · rintro ⟨gives, planned⟩
    rw [gives.load, planned]
    rfl

theorem Gives.congr (gives : env.Gives base)
    (same : ∀ v, v ≠ .marker → v ≠ .markerVersion → other.value v = env.value v) :
    other.Gives base where
  fixed := gives.fixed
  home := gives.home
  host := gives.host.trans (valueOr_congr (same _ (by decide) (by decide)) _).symm
  adminDatabase := gives.adminDatabase.trans (valueOr_congr (same _ (by decide) (by decide)) _).symm
  appName := gives.appName.trans (valueOr_congr (same _ (by decide) (by decide)) _).symm
  markerCollection :=
    gives.markerCollection.trans (valueOr_congr (same _ (by decide) (by decide)) _).symm
  portNumber := (readPortNumber_congr (same _ (by decide) (by decide))).trans gives.portNumber
  adminUsername := (required_congr (same _ (by decide) (by decide))).trans gives.adminUsername
  adminPassword := (required_congr (same _ (by decide) (by decide))).trans gives.adminPassword
  target := (required_congr (same _ (by decide) (by decide))).trans gives.target
  username := (required_congr (same _ (by decide) (by decide))).trans gives.username
  password := (required_congr (same _ (by decide) (by decide))).trans gives.password
  grants := (readGrants_congr (same _ (by decide) (by decide)) _).trans gives.grants
  verifyLogin := (readSwitch_congr (same _ (by decide) (by decide)) _).trans gives.verifyLogin

/-- An environment that names everything it must and leaves the rest to defaults. -/
def sample (adminPassword password : String) : Environment :=
  let unset : Environment := fun _ => none
  let named := ((unset.set .adminUsername (some "root")).set .database (some "app")).set .username
    (some "dev")
  (named.set .adminPassword (some adminPassword)).set .password (some password)

end Environment

def Settings.ofSample (adminPassword password : String) : Settings where
  server := ⟨"localhost", 27017, "admin", ⟨"root", adminPassword⟩, "bootstrap", 5, 5, 500⟩
  target := "app"
  account := ⟨"dev", password, "app", [⟨"dbOwner", "app"⟩]⟩
  plan := .skip
  markerCollection := "description"
  verifyLogin := true

theorem Environment.sample_gives :
    (sample "secret" "word").Gives (.ofSample "secret" "word") where
  host := by cbv
  portNumber := by cbv
  adminDatabase := by cbv
  adminUsername := by cbv
  adminPassword := by cbv
  appName := by cbv
  fixed := ⟨rfl, rfl, rfl⟩
  target := by cbv
  username := by cbv
  password := by cbv
  home := rfl
  grants := by cbv
  markerCollection := by cbv
  verifyLogin := by cbv

end Provision
