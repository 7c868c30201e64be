import Mathlib
import Provision.Proofs.Up
/-!
The login check behind a provisioning run.

On a cluster the check looks at one user and changes nothing, so the command leaves what its run
leaves, checked or not. A run that succeeds need not pass: whoever is there already keeps his
password, and a cluster may say that a user exists which it does not store.
-/

namespace Provision

namespace Cluster

/-- Checked or not, the command leaves a cluster as its provisioning run does. Unchecked it gives
the result of that run. Checked it gives the same if the cluster stores the account's user with the
account's password by then, and a failed verification if it does not; a run that fails is not
checked. -/
theorem login_checks_only_look (settings : Settings) (stamp : Int64) (cluster : Cluster) :
    let ran := (settings.request stamp).provision.run handler cluster
    let unchecked :=
      ({ settings with verifyLogin := false }.orchestrate .up stamp).run handler cluster
    let checked := ({ settings with verifyLogin := true }.orchestrate .up stamp).run handler cluster
    let passes := ∃ user,
      ran.state.users.find? (settings.target, settings.account.username) = some user ∧
        user.password = settings.account.password
    unchecked.state = ran.state ∧ checked.state = ran.state ∧
      unchecked.value = ran.value.map Outcome.provisioned ∧
      (∀ failure, ran.value = .error failure → checked.value = .error failure) ∧
      ∀ report, ran.value = .ok report →
        (passes → checked.value = .ok (.provisioned report)) ∧
        (¬passes → checked.value = .error (.verification settings.account.username settings.target
          (Refusal.wrongCredentials settings.account.username settings.target).fault.message)) := by
  intro ran unchecked checked passes
  have skipped : unchecked.value = ran.value.bind fun report => .ok (.provisioned report) :=
    Settings.up_value _ stamp handler cluster
  have looked : checked.value = ran.value.bind fun report =>
      ((verifyLogin settings.target settings.account.credentials).run handler ran.state).value.map
        fun _ => .provisioned report :=
    Settings.up_value _ stamp handler cluster
  refine ⟨(up_run _ stamp cluster).1, (up_run _ stamp cluster).1, ?unchecked, ?failed, ?passed⟩
  case unchecked =>
    rw [skipped]
    cases ran.value <;> rfl
  case failed =>
    intro failure failed
    rw [looked, failed]
    rfl
  case passed =>
    intro report succeeded
    rw [looked, succeeded]
    constructor
    · rintro ⟨user, stored, password⟩
      exact congrArg (Except.map _) (verifyLogin_of_known stored password)
    · intro unknown
      exact congrArg (Except.map _) (verifyLogin_of_unknown unknown)

/-- Two runs that succeed and then fail their check: one finds a user of that name with another
password, the other is told that there is a user where there is none. -/
theorem successful_runs_fail_checks :
    let taken : Cluster :=
      { sample with users := sample.users.insert ("app", "dev") ⟨"phrase", [⟨"read", "app"⟩]⟩ }
    let pretending := sample.inject .createUser ⟨.alreadyExists, "dev"⟩
    let settings := { Settings.sample with verifyLogin := true }
    let ran (cluster : Cluster) := (settings.request 5).provision.run handler cluster
    let checked (cluster : Cluster) := (settings.orchestrate .up 5).run handler cluster
    let failed : Failure :=
      .verification "dev" "app" (Refusal.wrongCredentials "dev" "app").fault.message
    ((ran taken).value = .ok ⟨.alreadyPresent, .skipped⟩ ∧
        (checked taken).value = .error failed ∧ (checked taken).state = (ran taken).state) ∧
      (ran pretending).value = .ok ⟨.alreadyPresent, .skipped⟩ ∧
        (checked pretending).value = .error failed ∧
        (checked pretending).state = (ran pretending).state := by
  intro taken pretending settings ran checked failed
  have fails (cluster : Cluster) (found : (ran cluster).value = .ok ⟨.alreadyPresent, .skipped⟩)
      (unknown : ¬∃ user, (ran cluster).state.users.find? ("app", "dev") = some user ∧
        user.password = "word") :
      (ran cluster).value = .ok ⟨.alreadyPresent, .skipped⟩ ∧
        (checked cluster).value = .error failed ∧
        (checked cluster).state = (ran cluster).state := by
    obtain ⟨-, state, -, -, looked⟩ := login_checks_only_look Settings.sample 5 cluster
    exact ⟨found, (looked _ found).2 unknown, state⟩
  constructor
  · apply fails taken
    · unfold ran taken
      cbv
    · have stored : (ran taken).state.users.find? ("app", "dev") =
          some ⟨"phrase", [⟨"read", "app"⟩]⟩ := by
        unfold ran taken
        cbv
      rw [stored]
      rintro ⟨user, same, password⟩
      cases same
      revert password
      decide
  · apply fails pretending
    · unfold ran pretending
      cbv
    · have absent : (ran pretending).state.users.find? ("app", "dev") = none := by
        unfold ran pretending
        cbv
      rw [absent]
      rintro ⟨user, same, -⟩
      cases same

end Cluster

end Provision
