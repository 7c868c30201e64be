import Provision.Proofs.Loading
import Provision.Task
/-!
Values without their passwords.

Masking blanks every password that a value holds and keeps all the rest, so two values are equal
except for passwords exactly if they are equal masked. No text shows what masking takes away, and
settings read from environments that differ in passwords only are the same settings masked.
-/

namespace Provision

def Credentials.masked (credentials : Credentials) : Credentials :=
  { credentials with password := "" }

def Account.masked (account : Account) : Account :=
  { account with password := "" }

def Request.masked (request : Request) : Request :=
  { request with admin := request.admin.masked, account := request.account.masked }

def Settings.masked (settings : Settings) : Settings :=
  { settings with
    server := { settings.server with admin := settings.server.admin.masked }
    account := settings.account.masked }

inductive Task.SameButPasswords : {α : Type} → Task α → Task α → Prop
  | provision {request other : Request} (alike : request.masked = other.masked) :
      SameButPasswords (.provision request) (.provision other)
  | verifyLogin (target : String) {credentials other : Credentials}
      (alike : credentials.masked = other.masked) :
      SameButPasswords (.verifyLogin target credentials) (.verifyLogin target other)
  | inspect (scope : String) {admin other : Credentials} (target collection : String)
      (alike : admin.masked = other.masked) :
      SameButPasswords (.inspect scope admin target collection)
        (.inspect scope other target collection)
  | orchestrate {settings other : Settings} (command : Command) (stamp : Int64)
      (alike : settings.masked = other.masked) :
      SameButPasswords (.orchestrate settings command stamp) (.orchestrate other command stamp)

theorem Credentials.of_masked {credentials other : Credentials}
    (alike : credentials.masked = other.masked) :
    ∃ password, other = { credentials with password } := by
  refine ⟨other.password, ?_⟩
  cases credentials
  cases other
  simpa [masked, eq_comm] using alike

theorem Account.of_masked {account other : Account} (alike : account.masked = other.masked) :
    ∃ password, other = { account with password } := by
  refine ⟨other.password, ?_⟩
  cases account
  cases other
  simpa [masked, eq_comm] using alike

theorem Settings.shown_masked (settings : Settings) : settings.masked.shown = settings.shown :=
  rfl

namespace Environment

/-- The two environments differ in the two passwords at most, and set the same of them. -/
structure SameButPasswords (env other : Environment) : Prop where
  elsewhere : ∀ name, name ≠ Variable.adminPassword.name → name ≠ Variable.password.name →
    env name = other name
  admin : (env.value .adminPassword).isSome = (other.value .adminPassword).isSome
  account : (env.value .password).isSome = (other.value .password).isSome

variable {env other : Environment} {α β : Type}

theorem SameButPasswords.value (same : env.SameButPasswords other) {v : Variable}
    (notAdmin : v ≠ .adminPassword) (notAccount : v ≠ .password) :
    env.value v = other.value v := by
  unfold Environment.value
  rw [same.elsewhere]
  · exact fun equal => notAdmin (Variable.name_injective equal)
  · exact fun equal => notAccount (Variable.name_injective equal)

theorem map_bind_congr {shape : α → β} {γ : Type} (read : Except SettingsFault γ)
    {next later : γ → Except SettingsFault α}
    (alike : ∀ value, (next value).map shape = (later value).map shape) :
    (read >>= next).map shape = (read >>= later).map shape := by
  cases read with
  | error fault => rfl
  | ok value => exact alike value

theorem map_bind_required {shape : α → β} {v : Variable}
    (set : (env.value v).isSome = (other.value v).isSome)
    {next later : String → Except SettingsFault α}
    (alike : ∀ password another, (next password).map shape = (later another).map shape) :
    (env.required v >>= next).map shape = (other.required v >>= later).map shape := by
  unfold required
  cases here : env.value v with
  | none =>
    cases there : other.value v with
    | none => rfl
    | some another => simp [here, there] at set
  | some password =>
    cases there : other.value v with
    | none => simp [here, there] at set
    | some another => exact alike password another

/-- Settings read from such environments fail alike, or are the same but for their passwords. -/
theorem SameButPasswords.load (same : env.SameButPasswords other) :
    (Settings.load env).map Settings.masked = (Settings.load other).map Settings.masked := by
  have value {v : Variable} (notAdmin : v ≠ .adminPassword) (notAccount : v ≠ .password) :
      other.value v = env.value v := (same.value notAdmin notAccount).symm
  -- Every variable but the two passwords reads the same on both sides.
  have portNumber := readPortNumber_congr (value (by decide) (by decide))
  have required {v : Variable} (notAdmin : v ≠ .adminPassword) (notAccount : v ≠ .password) :=
    required_congr (value notAdmin notAccount)
  have valueOr {v : Variable} (notAdmin : v ≠ .adminPassword) (notAccount : v ≠ .password) :=
    valueOr_congr (value notAdmin notAccount)
  have grants := readGrants_congr (value (by decide) (by decide))
  have switch := readSwitch_congr (v := .verifyLogin) (value (by decide) (by decide)) true
  unfold Settings.load
  simp (disch := decide) only [portNumber, switch, grants, value, required, valueOr]
  refine map_bind_congr _ fun portNumber => ?_
  refine map_bind_congr _ fun adminUsername => ?_
  refine map_bind_required same.admin fun adminPassword adminAnother => ?_
  refine map_bind_congr _ fun target => ?_
  refine map_bind_congr _ fun grants => ?_
  refine map_bind_congr _ fun username => ?_
  refine map_bind_required same.account fun password another => ?_
  refine map_bind_congr _ fun plan => ?_
  exact map_bind_congr _ fun verifyLogin => rfl

theorem SameButPasswords.loaded (same : env.SameButPasswords other) :
    (∃ fault, Settings.load env = .error fault ∧ Settings.load other = .error fault) ∨
      ∃ settings another, Settings.load env = .ok settings ∧ Settings.load other = .ok another ∧
        settings.masked = another.masked ∧ settings.shown = another.shown := by
  have alike := same.load
  cases here : Settings.load env with
  | error fault =>
    cases there : Settings.load other with
    | error again =>
      rw [here, there] at alike
      obtain rfl : fault = again := Except.error.inj alike
      exact .inl ⟨fault, rfl, rfl⟩
    | ok another =>
      rw [here, there] at alike
      cases alike
  | ok settings =>
    cases there : Settings.load other with
    | error fault =>
      rw [here, there] at alike
      cases alike
    | ok another =>
      rw [here, there] at alike
      have masked : settings.masked = another.masked := Except.ok.inj alike
      have shown := calc settings.shown
        _ = settings.masked.shown := settings.shown_masked.symm
        _ = another.masked.shown := congrArg Settings.shown masked
        _ = another.shown := another.shown_masked
      exact .inr ⟨settings, another, rfl, rfl, masked, shown⟩

end Environment

end Provision
