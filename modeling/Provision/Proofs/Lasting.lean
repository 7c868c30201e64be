import Mathlib
import Provision.Proofs.Admission
import Provision.Proofs.CallProtocol
import Provision.Proofs.History
import Provision.Proofs.Up
/-!
Logins that last.

Others may do anything to a cluster while a run is under way, between any two of its operations.
Such a run is part of a history too, so it takes nothing back, and a user that it created can log
in from then on with the password it was created with and with no other.
-/

namespace Provision

namespace Cluster

/-- A cluster amid others. They take one of their turns before each operation of a run. -/
structure Busy where
  cluster : Cluster
  turns : List (List Action)

namespace Busy

def handler : Handler (Store Session) Busy := fun op busy =>
  let answered := Cluster.handler op (busy.cluster.after (busy.turns.headD []))
  (answered.1, ⟨answered.2, busy.turns.tail⟩)

variable {α : Type} {program : Program (Store Session) α} {busy : Busy}

/-- A run amid others is a history of its own operations and of their turns. -/
theorem run_is_history (program : Program (Store Session) α) (busy : Busy) :
    ∃ history, (program.run handler busy).state.cluster = busy.cluster.after history := by
  induction program generalizing busy with
  | done value => exact ⟨[], rfl⟩
  | emit event rest ih => exact ih busy
  | perform op next ih =>
    obtain ⟨history, ended⟩ := ih (handler op busy).1 (handler op busy).2
    refine ⟨busy.turns.headD [] ++ .ask op :: history, ?_⟩
    rw [after_append]
    exact ended

theorem run_idle (program : Program (Store Session) α) (cluster : Cluster) :
    program.run handler ⟨cluster, []⟩ =
      let alone := program.run Cluster.handler cluster
      ⟨alone.value, alone.log, ⟨alone.state, []⟩⟩ := by
  induction program generalizing cluster with
  | done value => rfl
  | emit event rest ih =>
    simp only [Program.run]
    rw [ih]
  | perform op next ih => exact ih _ _

theorem run_grows (program : Program (Store Session) α) (busy : Busy) :
    Grows busy.cluster (program.run handler busy).state.cluster := by
  obtain ⟨history, ended⟩ := run_is_history program busy
  rw [ended]
  exact after_grows busy.cluster history

/-- What was exchanged was answered by the cluster as it was then, in a state that the operations
before had kept, and what the answer stored has stayed. -/
theorem answered_of_mem_trace {keeps : Busy → Prop}
    (step : ∀ op state, keeps state → keeps (handler op state).2) (start : keeps busy)
    {op : StoreOp Session} {reply : op.Reply}
    (member : ⟨op, reply⟩ ∈ program.trace handler busy) :
    ∃ before, keeps before ∧ ∃ next,
      Cluster.handler op (before.cluster.after (before.turns.headD [])) = (reply, next) ∧
        Grows next (program.run handler busy).state.cluster := by
  obtain ⟨before, kept, answered, rest, ended⟩ :=
    Program.answered_of_mem_trace step start member
  refine ⟨before, kept, (handler op before).2.cluster, Prod.ext answered rfl, ?_⟩
  rw [← ended]
  exact run_grows rest (handler op before).2

theorem asked_of_mem_trace {op : StoreOp Session} {reply : op.Reply}
    (member : ⟨op, reply⟩ ∈ program.trace handler busy) :
    ∃ asked next, Cluster.handler op asked = (reply, next) ∧
      Grows next (program.run handler busy).state.cluster := by
  have anyway : ∀ (op : StoreOp Session) (state : Busy), True → True := fun _ _ => id
  obtain ⟨before, -, next, answered, grows⟩ := answered_of_mem_trace anyway trivial member
  exact ⟨_, next, answered, grows⟩

theorem stored_of_created {session : Session} {account : Account}
    (created : ⟨.call session (.createUser account), .ok ()⟩ ∈ program.trace handler busy) :
    (program.run handler busy).state.cluster.users.find? account.key = some account.user := by
  obtain ⟨asked, next, answered, grows⟩ := asked_of_mem_trace created
  apply grows.users
  obtain ⟨-, written⟩ := answer_written rfl answered
  cases written with
  | user known absent => exact Table.find?_insert_self ..

theorem stored_of_report {request : Request} {report : Report}
    (ran : (request.provision.run handler busy).value = .ok report)
    (created : report.user = .created) :
    (request.provision.run handler busy).state.cluster.users.find?
      (request.target, request.account.username) = some request.account.user := by
  obtain ⟨opening, -, dialogue⟩ := provision_dialogue handler busy request
  obtain ⟨ended, -⟩ := (dialogue.inStages.success report).1 ran
  rw [created] at ended
  obtain ⟨-, accepted⟩ := dialogue.inStages.begun.1 (List.ne_nil_of_mem ended)
  obtain ⟨session, exchanged⟩ := exchanged_of_mem_onSession ended
  rw [← Account.database_of_check accepted]
  exact stored_of_created exchanged

end Busy

theorem verifyLogin_of_stored {cluster : Cluster} {target username : String} {user : User}
    (stored : cluster.users.find? (target, username) = some user) (password : String) :
    let checked := (verifyLogin target ⟨username, password⟩).run handler cluster
    checked.state = cluster ∧ checked.value =
      if password = user.password then .ok ()
      else .error (.verification username target
        (Refusal.wrongCredentials username target).fault.message) := by
  refine ⟨verifyLogin_state _ _ _, ?_⟩
  by_cases right : password = user.password
  · rw [if_pos right]
    exact verifyLogin_of_known stored right.symm
  · rw [if_neg right]
    refine verifyLogin_of_unknown ?_
    rintro ⟨other, again, password⟩
    obtain rfl := Option.some.inj (stored.symm.trans again)
    exact right password.symm

/-- Nothing that can be done to a cluster takes back what it stores. So the login of a user that was
created by a run amid others works at any later time, and a check with any other password fails;
neither check changes the cluster. -/
theorem created_logins_last (cluster : Cluster) :
    (∀ history, Grows cluster (cluster.after history)) ∧
    (∀ {α : Type} (program : Program (Store Session) α) (turns : List (List Action)),
      ∃ history, (program.run Busy.handler ⟨cluster, turns⟩).state.cluster =
        cluster.after history) ∧
    ∀ (request : Request) (turns : List (List Action)) (report : Report),
      let ran := request.provision.run Busy.handler ⟨cluster, turns⟩
      ran.value = .ok report → report.user = .created → ∀ history password,
        let later := ran.state.cluster.after history
        let checked :=
          (verifyLogin request.target ⟨request.account.username, password⟩).run handler later
        checked.state = later ∧ checked.value =
          if password = request.account.password then .ok ()
          else .error (.verification request.account.username request.target
            (Refusal.wrongCredentials request.account.username request.target).fault.message) := by
  refine ⟨after_grows cluster,
    fun program turns => Busy.run_is_history program ⟨cluster, turns⟩, ?_⟩
  intro request turns report ran succeeded created history password later checked
  have stored := Busy.stored_of_report succeeded created
  have kept : later.users.find? (request.target, request.account.username) =
      some request.account.user := (after_grows _ history).users _ _ stored
  exact verifyLogin_of_stored kept password

/-- What others do while the sample run is under way: they break closing and put a document in. -/
def Busy.sampleTurns : List (List Action) :=
  [[.inject .close ⟨.unavailable, "gone"⟩], [],
    [.insertRaw "app" "description" ⟨"by-hand", .fresh "0" 1⟩]]

/-- The user of the sample run keeps its password when somebody tries to create it with another. -/
theorem created_login_outlasts_rival :
    let rival : Account := ⟨"dev", "phrase", "app", [⟨"dbOwner", "app"⟩]⟩
    let ran := Request.sample.provision.run Busy.handler ⟨sample, Busy.sampleTurns⟩
    let later := ran.state.cluster.after [.ask (.call [⟨"root", "admin"⟩] (.createUser rival))]
    ran.value = .ok ⟨.created, .alreadyPresent⟩ ∧
      ((verifyLogin "app" ⟨"dev", "word"⟩).run handler later).value = .ok () ∧
      ((verifyLogin "app" ⟨"dev", "phrase"⟩).run handler later).value =
        .error (.verification "dev" "app"
          (Refusal.wrongCredentials "dev" "app").fault.message) := by
  intro rival ran later
  have succeeded : ran.value = .ok ⟨.created, .alreadyPresent⟩ := by cbv
  have lasts := (created_logins_last sample).2.2 Request.sample Busy.sampleTurns
    ⟨.created, .alreadyPresent⟩ succeeded rfl
    [.ask (.call [⟨"root", "admin"⟩] (.createUser rival))]
  exact ⟨succeeded, (lasts "word").2, (lasts "phrase").2⟩

end Cluster

end Provision
