import Provision.Orchestration
import Provision.Proofs.Alone
/-!
The up command on a cluster: a provisioning run, and a login check that changes nothing.
-/

namespace Provision

open Cluster

variable {cluster : Cluster} {settings : Settings} {stamp : Int64}

theorem verifyLogin_state (target : String) (credentials : Credentials) (cluster : Cluster) :
    ((verifyLogin target credentials).run handler cluster).state = cluster := by
  have quiet : (Program.done () : Program Calls Unit).Asks Call.LooksUp := trivial
  have kept := withSession_of_reads quiet .verifyLogin target credentials cluster
  simp only [verifyLogin, Program.run_bind]
  cases answered : ((withSession .verifyLogin target credentials (.done ())).run handler
    cluster).value <;> exact kept

theorem verifyLogin_of_known {target : String} {credentials : Credentials} {user : User}
    (stored : cluster.users.find? (target, credentials.username) = some user)
    (password : user.password = credentials.password) :
    ((verifyLogin target credentials).run handler cluster).value = .ok () := by
  have opened : handler (.openSession target credentials) cluster =
      (.ok user.grants, cluster.opened) := openSession_ok.2 ⟨user, stored, password, rfl, rfl⟩
  obtain ⟨value, -⟩ := withSession_run_of_opened .verifyLogin (.done ()) opened
  simp only [verifyLogin, Program.run_bind]
  rw [value]
  rfl

theorem verifyLogin_of_unknown {target : String} {credentials : Credentials}
    (unknown : ¬∃ user, cluster.users.find? (target, credentials.username) = some user ∧
      user.password = credentials.password) :
    ((verifyLogin target credentials).run handler cluster).value =
      .error (.verification credentials.username target
        (Refusal.wrongCredentials credentials.username target).fault.message) := by
  have refused : handler (.openSession target credentials) cluster =
      (.error (Refusal.wrongCredentials credentials.username target).fault, cluster) :=
    openSession_refused unknown
  simp only [verifyLogin, Program.run_bind, withSession_run_of_refused _ _ refused]
  rfl

theorem verifyLogin_ok_iff (target : String) (credentials : Credentials) (cluster : Cluster) :
    ((verifyLogin target credentials).run handler cluster).value = .ok () ↔
      ∃ user, cluster.users.find? (target, credentials.username) = some user ∧
        user.password = credentials.password := by
  by_cases known : ∃ user, cluster.users.find? (target, credentials.username) = some user ∧
      user.password = credentials.password
  · obtain ⟨user, stored, password⟩ := known
    exact iff_of_true (verifyLogin_of_known stored password) ⟨user, stored, password⟩
  · rw [verifyLogin_of_unknown known]
    exact iff_of_false nofun known

theorem checkLogin_state (settings : Settings) (cluster : Cluster) :
    (settings.checkLogin.run handler cluster).state = cluster := by
  unfold Settings.checkLogin
  split
  · exact verifyLogin_state _ _ cluster
  · rfl

theorem checkLogin_ok (settings : Settings) (cluster : Cluster) :
    (settings.checkLogin.run handler cluster).value = .ok () ↔
      (settings.verifyLogin = true → ∃ user,
        cluster.users.find? (settings.target, settings.account.username) = some user ∧
          user.password = settings.account.password) := by
  unfold Settings.checkLogin
  cases settings.verifyLogin with
  | true => simpa [Account.credentials] using verifyLogin_ok_iff _ _ cluster
  | false => simp [Program.run]

theorem Settings.up_value {S σ : Type} (settings : Settings) (stamp : Int64)
    (handler : Handler (Store S) σ) (state : σ) :
    let ran := (settings.request stamp).provision.run handler state
    ((settings.up stamp).run handler state).value = ran.value.bind fun report =>
      (settings.checkLogin.run handler ran.state).value.map fun _ => .provisioned report := by
  simp only [up, Program.run_bind]
  cases ((settings.request stamp).provision.run handler state).value with
  | error failure => rfl
  | ok report =>
    simp only [Program.run_bind]
    cases (settings.checkLogin.run handler
      ((settings.request stamp).provision.run handler state).state).value <;> rfl

/-- The command leaves what its provisioning run leaves, and succeeds if that run does and the
login check passes. -/
theorem up_run (settings : Settings) (stamp : Int64) (cluster : Cluster) :
    let ran := (settings.request stamp).provision.run handler cluster
    ((settings.up stamp).run handler cluster).state = ran.state ∧
      ∀ outcome, ((settings.up stamp).run handler cluster).value = .ok outcome ↔
        ∃ report, ran.value = .ok report ∧ outcome = .provisioned report ∧
          (settings.checkLogin.run handler ran.state).value = .ok () := by
  simp only [Settings.up, Program.run_bind]
  cases ((settings.request stamp).provision.run handler cluster).value with
  | error failure => simp [Program.run]
  | ok report =>
    have kept := checkLogin_state settings
      ((settings.request stamp).provision.run handler cluster).state
    simp only [Program.run_bind]
    cases checked : (settings.checkLogin.run handler
        ((settings.request stamp).provision.run handler cluster).state).value with
    | error failure => simp [Program.run, kept]
    | ok done => simp [Program.run, kept, eq_comm]

def Settings.sample : Settings where
  server := ⟨"localhost", 27017, "admin", ⟨"root", "secret"⟩, "bootstrap", 5, 5, 500⟩
  target := "app"
  account := Request.sample.account
  plan := .skip
  markerCollection := "description"
  verifyLogin := true

end Provision
