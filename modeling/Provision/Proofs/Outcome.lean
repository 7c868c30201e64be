import Mathlib
import Provision.Proofs.Admission
/-!
The exact outcome of a provisioning run on a cluster without faults.

Two stages decide it. The first one ends with the user: the administrator logs in, the account
passes its check, and the user is found or can be created. A run that is rejected there leaves the
cluster as it was. The second stage carries out the plan, and a run that ends there leaves the user
and nothing else: without faults a cluster declines a plan before anything is written for it.
-/

namespace Provision

namespace Cluster

theorem unknownRole_eq_none_iff {grants : List Grant} :
    unknownRole grants = none ↔ ∀ grant ∈ grants, grant.role ∈ builtinRoles := by
  simp [unknownRole, Text.sorted_eq_nil_iff, List.filter_eq_nil_iff]

structure LogsIn (cluster : Cluster) (request : Request) (admin : User) : Prop where
  stored : cluster.users.find? (request.scope, request.admin.username) = some admin
  password : admin.password = request.admin.password

structure Accepts (cluster : Cluster) (request : Request) (admin : User) : Prop
    extends LogsIn cluster request admin where
  checked : request.account.check request.target = .ok ()
  manages : Session.holds admin.grants .manageUsers request.target = true
  /-- Roles are looked at only where the user has to be created. -/
  known : cluster.hasUser request.target request.account.username = true ∨
    ∀ grant ∈ request.account.grants, grant.role ∈ builtinRoles

def Serves (cluster : Cluster) (session : Session) (target : String) : MarkerPlan → Prop
  | .skip => True
  | .seed collection version =>
    collection ≠ "" ∧ version ≠ "" ∧ session.holds .read target = true ∧
      (cluster.records target collection ≠ [] ∨ session.holds .write target = true)

/-- What stands against the user of a run, and the failure that tells it. -/
inductive Rejects (cluster : Cluster) (request : Request) : Failure → Prop
  | login (unknown : ¬∃ admin, cluster.LogsIn request admin) :
      Rejects cluster request (.authentication request.scope
        (Refusal.wrongCredentials request.admin.username request.scope).fault.detail)
  | account {admin : User} {failure : Failure} (login : cluster.LogsIn request admin)
      (checked : request.account.check request.target = .error failure) :
      Rejects cluster request failure
  | privilege {admin : User} (login : cluster.LogsIn request admin)
      (checked : request.account.check request.target = .ok ())
      (lacks : Session.holds admin.grants .manageUsers request.target = false) :
      Rejects cluster request (.grant request.account.username request.target
        (Refusal.lacksPrivilege .manageUsers request.target).fault.message)
  | role {admin : User} {written : String} (login : cluster.LogsIn request admin)
      (checked : request.account.check request.target = .ok ())
      (manages : Session.holds admin.grants .manageUsers request.target = true)
      (absent : cluster.hasUser request.target request.account.username = false)
      (unknown : unknownRole request.account.grants = some written) :
      Rejects cluster request (.grant request.account.username request.target
        (Refusal.unknownRole written).fault.message)

inductive Declines (cluster : Cluster) (session : Session) (target : String) :
    MarkerPlan → Failure → Prop
  | unnamed (version : String) :
      Declines cluster session target (.seed "" version)
        (.marker target "" "collection name must not be empty")
  | unversioned {collection : String} (named : collection ≠ "") :
      Declines cluster session target (.seed collection "")
        (.marker target collection "marker version must not be empty")
  | unread {collection version : String} (named : collection ≠ "") (versioned : version ≠ "")
      (lacks : session.holds .read target = false) :
      Declines cluster session target (.seed collection version)
        (.marker target collection (Refusal.lacksPrivilege .read target).fault.message)
  | unwritten {collection version : String} (named : collection ≠ "") (versioned : version ≠ "")
      (reads : session.holds .read target = true) (empty : cluster.records target collection = [])
      (lacks : session.holds .write target = false) :
      Declines cluster session target (.seed collection version)
        (.marker target collection (Refusal.lacksPrivilege .write target).fault.message)

def withUser (cluster : Cluster) (account : Account) : Cluster :=
  if cluster.hasUser account.database account.username then cluster
  else { cluster with
    users := cluster.users.insert account.key account.user
    writes := cluster.writes + 1 }

/-- The cluster with what a plan seeds: the fresh marker in a collection without documents. A
collection that was missing is one write more. -/
def withPlanned (cluster : Cluster) (target : String) (plan : MarkerPlan) (stamp : Int64) :
    Cluster :=
  match plan with
  | .skip => cluster
  | .seed collection version =>
    if cluster.records target collection = [] then
      { cluster with
        collections := cluster.collections.insert (target, collection)
          [⟨Marker.identifier, .fresh version stamp⟩]
        writes := cluster.writes + if cluster.hasCollection target collection then 1 else 2 }
    else cluster

variable {cluster after : Cluster} {session : Session} {request : Request} {admin : User}
variable {target : String} {plan : MarkerPlan} {stamp : Int64} {failure : Failure}

theorem Accepts.unknownRole_eq_none (accepts : cluster.Accepts request admin)
    (absent : cluster.holds (.user request.account.key) = false) :
    unknownRole request.account.grants = none := by
  have missing : cluster.hasUser request.target request.account.username = false := by
    rw [← Account.database_of_check accepts.checked]
    exact absent
  exact unknownRole_eq_none_iff.2 (accepts.known.resolve_left (by simp [missing]))

theorem admits_of_accepts (accepts : cluster.Accepts request admin)
    (serves : cluster.Serves admin.grants request.target request.plan) :
    cluster.Admits request admin where
  stored := accepts.stored
  password := accepts.password
  accepted := accepts.checked
  manages := accepts.manages
  known := accepts.unknownRole_eq_none
  planned := by
    intro collection version plan
    rw [plan] at serves
    obtain ⟨named, versioned, reads, writes⟩ := serves
    exact ⟨named, versioned, reads, fun empty => writes.resolve_left (fun full => full empty)⟩

theorem LogsIn.unique {other : User} (login : cluster.LogsIn request admin)
    (again : cluster.LogsIn request other) : other = admin :=
  Option.some.inj (again.stored.symm.trans login.stored)

theorem Rejects.not_accepts (rejects : cluster.Rejects request failure) :
    ¬∃ admin, cluster.Accepts request admin := by
  rintro ⟨admin, accepts⟩
  cases rejects with
  | login unknown => exact unknown ⟨admin, accepts.toLogsIn⟩
  | account login checked =>
    rw [accepts.checked] at checked
    cases checked
  | privilege login checked lacks =>
    obtain rfl := accepts.toLogsIn.unique login
    rw [accepts.manages] at lacks
    cases lacks
  | role login checked manages absent unknown =>
    rw [← Account.database_of_check checked] at absent
    rw [accepts.unknownRole_eq_none absent] at unknown
    cases unknown

/-! ### Every run meets one of three fates -/

theorem Declines.not_serves (declines : cluster.Declines session target plan failure) :
    ¬cluster.Serves session target plan := by
  intro serves
  cases declines with
  | unnamed version => exact serves.1 rfl
  | unversioned named => exact serves.2.1 rfl
  | unread named versioned lacks =>
    rw [serves.2.2.1] at lacks
    cases lacks
  | unwritten named versioned reads empty lacks =>
    rcases serves.2.2.2 with full | writes
    · exact full empty
    · rw [writes] at lacks
      cases lacks

theorem accepts_or_rejects (cluster : Cluster) (request : Request) :
    (∃ admin, cluster.Accepts request admin) ∨ ∃ failure, cluster.Rejects request failure := by
  by_cases login : ∃ admin, cluster.LogsIn request admin
  · obtain ⟨admin, login⟩ := login
    cases checked : request.account.check request.target with
    | error failure => exact .inr ⟨_, .account login checked⟩
    | ok _ =>
      cases manages : Session.holds admin.grants .manageUsers request.target with
      | false => exact .inr ⟨_, .privilege login checked manages⟩
      | true =>
        cases there : cluster.hasUser request.target request.account.username with
        | true => exact .inl ⟨admin, login, checked, manages, .inl there⟩
        | false =>
          cases known : unknownRole request.account.grants with
          | some written => exact .inr ⟨_, .role login checked manages there known⟩
          | none =>
            exact .inl ⟨admin, login, checked, manages, .inr (unknownRole_eq_none_iff.1 known)⟩
  · exact .inr ⟨_, .login login⟩

theorem serves_or_declines (cluster : Cluster) (session : Session) (target : String)
    (plan : MarkerPlan) :
    cluster.Serves session target plan ∨
      ∃ failure, cluster.Declines session target plan failure := by
  cases plan with
  | skip => exact .inl trivial
  | seed collection version =>
    by_cases named : collection = ""
    · subst named
      exact .inr ⟨_, .unnamed version⟩
    · by_cases versioned : version = ""
      · subst versioned
        exact .inr ⟨_, .unversioned named⟩
      · cases reads : session.holds .read target with
        | false => exact .inr ⟨_, .unread named versioned reads⟩
        | true =>
          by_cases empty : cluster.records target collection = []
          · cases writes : session.holds .write target with
            | false => exact .inr ⟨_, .unwritten named versioned reads empty writes⟩
            | true => exact .inl ⟨named, versioned, reads, .inr writes⟩
          · exact .inl ⟨named, versioned, reads, .inl empty⟩

/-! ### What the steps leave -/

theorem UserStep.eq_withUser {account : Account} {outcome : UserOutcome}
    (faultless : cluster.Faultless)
    (step : UserStep cluster session account outcome after) : after = cluster.withUser account := by
  cases step with
  | present asked there => exact (if_pos there).symm
  | created asked permits written =>
    cases written with
    | user known absent => exact (if_neg (Bool.eq_false_iff.1 absent)).symm
  | pretended _ _ pretends => exact absurd pretends (faultless.not_pretends _)

theorem PlanStep.eq_withPlanned {outcome : MarkerOutcome} (faultless : cluster.Faultless)
    (step : PlanStep cluster session target plan stamp outcome after) :
    after = cluster.withPlanned target plan stamp := by
  cases plan with
  | skip => exact step.2
  | seed collection version =>
    obtain ⟨-, -, marked⟩ := step
    cases marked with
    | present asked documented => exact (if_neg documented).symm
    | @seeded middle _ asked empty ensured permits written =>
      cases written with
      | marker =>
        cases ensured with
        | created _ written =>
          cases written with
          | collection absent =>
            have missing : cluster.hasCollection target collection = false := absent
            simp only [withPlanned, if_pos empty, missing]
            simp [append, wrote, records, Table.find?_insert, Table.insert_insert]
        | there _ there =>
          have held : cluster.hasCollection target collection = true := there
          simp [withPlanned, empty, held, append, wrote]
        | pretended pretends => exact absurd pretends (faultless.not_pretends _)
    | pretended _ _ ensured pretends =>
      exact absurd (pretends.kept ensured.faults.symm) (faultless.not_pretends _)

theorem opened_withUser (cluster : Cluster) (account : Account) :
    cluster.opened.withUser account = (cluster.withUser account).opened := by
  unfold withUser
  by_cases there : cluster.hasUser account.database account.username = true
  · rw [if_pos there]
    exact if_pos there
  · rw [if_neg there]
    exact if_neg there

theorem opened_withPlanned (cluster : Cluster) (target : String) (plan : MarkerPlan)
    (stamp : Int64) :
    cluster.opened.withPlanned target plan stamp =
      (cluster.withPlanned target plan stamp).opened := by
  cases plan with
  | skip => rfl
  | seed collection version =>
    simp only [withPlanned]
    by_cases empty : cluster.records target collection = []
    · rw [if_pos empty]
      exact if_pos empty
    · rw [if_neg empty]
      exact if_neg empty

theorem withUser_collections (cluster : Cluster) (account : Account) :
    (cluster.withUser account).collections = cluster.collections := by
  unfold withUser
  split <;> rfl

theorem withUser_faults (cluster : Cluster) (account : Account) :
    (cluster.withUser account).faults = cluster.faults := by
  unfold withUser
  split <;> rfl

/-! ### How each fate comes about -/

theorem answer_of_lacking {call : Call} {privilege : Privilege} {database : String}
    (faultless : cluster.Faultless) (needs : call.needs = some (privilege, database))
    (lacks : session.holds privilege database = false) :
    cluster.answer session call =
      (.error (Refusal.lacksPrivilege privilege database).fault, cluster) := by
  have refused : session.refusal call = some (.lacksPrivilege privilege database) := by
    simp [Session.refusal, needs, lacks]
  simp only [answer, show cluster.faults call.faultPoint = none by rw [faultless], refused]

theorem openSession_of_logsIn (login : cluster.LogsIn request admin) :
    handler (.openSession request.scope request.admin) cluster =
      (.ok admin.grants, cluster.opened) :=
  openSession_ok.2 ⟨admin, login.stored, login.password, rfl, rfl⟩

theorem openSession_of_unknown (unknown : ¬∃ admin, cluster.LogsIn request admin) :
    handler (.openSession request.scope request.admin) cluster =
      (.error (Refusal.wrongCredentials request.admin.username request.scope).fault, cluster) :=
  openSession_refused fun ⟨admin, stored, password⟩ => unknown ⟨admin, stored, password⟩

theorem ensureUser_run_of_lacking {account : Account} (faultless : cluster.Faultless)
    (lacks : session.holds .manageUsers account.database = false) :
    (ensureUser account).run (callsOn handler session) cluster =
      ⟨.error (.grant account.username account.database
        (Refusal.lacksPrivilege .manageUsers account.database).fault.message), [], cluster⟩ := by
  have refused : cluster.answer session (.userExists account.database account.username) = _ :=
    answer_of_lacking faultless rfl lacks
  simp only [ensureUser, Program.run, callsOn, handler, refused]

theorem ensureUser_run_of_unknown {account : Account} {written : String}
    (faultless : cluster.Faultless) (manages : session.holds .manageUsers account.database = true)
    (absent : cluster.hasUser account.database account.username = false)
    (unknown : unknownRole account.grants = some written) :
    (ensureUser account).run (callsOn handler session) cluster =
      ⟨.error (.grant account.username account.database
        (Refusal.unknownRole written).fault.message), [], cluster⟩ := by
  have asked : cluster.answer session (.userExists account.database account.username) =
      (.ok false, cluster) := by
    rw [answer_of_permits (.of_holds faultless rfl manages)]
    simp [execute, absent]
  have made : cluster.answer session (.createUser account) =
      (.error (Refusal.unknownRole written).fault, cluster) := by
    rw [answer_of_permits (.of_holds faultless rfl manages)]
    simp [execute, createUser_eq, unknown, settle]
  simp [ensureUser, Program.run, callsOn, handler, asked, made, Fault.isAlreadyExists,
    Refusal.fault]

theorem Declines.run (faultless : cluster.Faultless)
    (declines : cluster.Declines session target plan failure) (stamp : Int64) :
    (applyPlan target plan stamp).run (callsOn handler session) cluster =
      ⟨.error failure, [], cluster⟩ := by
  cases declines with
  | unnamed version => simp [applyPlan, ensureMarker, Program.run]
  | unversioned named => simp [applyPlan, ensureMarker, named, Program.run]
  | @unread collection version named versioned lacks =>
    have refused : cluster.answer session (.findMarker target collection) = _ :=
      answer_of_lacking faultless rfl lacks
    simp only [applyPlan, ensureMarker_of_named stamp named versioned, Program.run, callsOn,
      handler, refused]
  | @unwritten collection version named versioned reads empty lacks =>
    have found : cluster.answer session (.findMarker target collection) =
        (.ok none, cluster) := by
      rw [answer_of_permits (.of_holds faultless rfl reads)]
      simp [execute, documents, empty]
    have refused : cluster.answer session (.ensureCollection target collection) = _ :=
      answer_of_lacking faultless rfl lacks
    simp [applyPlan, ensureMarker_of_named stamp named versioned, Program.run, callsOn, handler,
      found, refused, Fault.isAlreadyExists, Refusal.fault]

theorem Declines.kept (same : after.collections = cluster.collections)
    (declines : cluster.Declines session target plan failure) :
    after.Declines session target plan failure := by
  cases declines with
  | unnamed version => exact .unnamed version
  | unversioned named => exact .unversioned named
  | unread named versioned lacks => exact .unread named versioned lacks
  | unwritten named versioned reads empty lacks =>
    exact .unwritten named versioned reads ((records_congr same _ _).trans empty) lacks

theorem provision_run_of_userless (login : cluster.LogsIn request admin)
    (checked : request.account.check request.target = .ok ()) {log : List Event}
    (failed : (ensureUser request.account).run (callsOn handler admin.grants) cluster.opened =
      ⟨.error failure, log, cluster.opened⟩) :
    (request.provision.run handler cluster).value = .error failure ∧
      (request.provision.run handler cluster).state = cluster := by
  obtain ⟨value, state⟩ := Request.provision_run_of_opened (openSession_of_logsIn login)
  simp only [Request.body, checked, Program.run_bind, Program.run, failed] at value state
  exact ⟨value, state.trans (close_opened cluster)⟩

theorem Rejects.run (faultless : cluster.Faultless) (rejects : cluster.Rejects request failure) :
    (request.provision.run handler cluster).value = .error failure ∧
      (request.provision.run handler cluster).state = cluster := by
  cases rejects with
  | login unknown => exact Request.provision_run_of_refused (openSession_of_unknown unknown)
  | account login checked =>
    obtain ⟨value, state⟩ := Request.provision_run_of_opened (openSession_of_logsIn login)
    simp only [Request.body, checked, Program.run] at value state
    exact ⟨value, state.trans (close_opened cluster)⟩
  | privilege login checked lacks =>
    rw [← Account.database_of_check checked] at lacks ⊢
    exact provision_run_of_userless login checked
      (ensureUser_run_of_lacking (opened_faultless faultless) lacks)
  | role login checked manages absent unknown =>
    rw [← Account.database_of_check checked] at manages absent ⊢
    exact provision_run_of_userless login checked
      (ensureUser_run_of_unknown (opened_faultless faultless) manages absent unknown)

theorem Accepts.ensured (faultless : cluster.Faultless) (accepts : cluster.Accepts request admin) :
    ∃ outcome, UserStep cluster.opened admin.grants request.account outcome
      (cluster.withUser request.account).opened := by
  have database := Account.database_of_check accepts.checked
  obtain ⟨outcome, middle, step⟩ := UserStep.of_admits (opened_faultless faultless)
    (database ▸ accepts.manages) accepts.unknownRole_eq_none
  have left := step.eq_withUser (opened_faultless faultless)
  rw [opened_withUser] at left
  exact ⟨outcome, left ▸ step⟩

theorem Declines.provision_run (faultless : cluster.Faultless)
    (accepts : cluster.Accepts request admin)
    (declines : cluster.Declines admin.grants request.target request.plan failure) :
    (request.provision.run handler cluster).value = .error failure ∧
      (request.provision.run handler cluster).state = cluster.withUser request.account := by
  obtain ⟨value, state⟩ := Request.provision_run_of_opened (openSession_of_logsIn accepts.toLogsIn)
  obtain ⟨outcome, ensured⟩ := accepts.ensured faultless
  obtain ⟨made, reached⟩ := ensured.run
  have collections : (cluster.withUser request.account).opened.collections = cluster.collections :=
    withUser_collections cluster request.account
  have faults : (cluster.withUser request.account).opened.Faultless :=
    (withUser_faults cluster request.account).trans faultless
  have declined := (declines.kept collections).run faults request.stamp
  simp only [Request.body, accepts.checked, Program.run_bind, Program.run, made, reached,
    declined] at value state
  exact ⟨value, state.trans (close_opened _)⟩

/-- A run that is accepted and whose plan is served succeeds. -/
theorem Serves.provision_run (faultless : cluster.Faultless)
    (accepts : cluster.Accepts request admin)
    (serves : cluster.Serves admin.grants request.target request.plan) :
    (request.provision.run handler cluster).value = .ok (cluster.reportOf request) ∧
      (request.provision.run handler cluster).state =
        (cluster.withUser request.account).withPlanned request.target request.plan
          request.stamp := by
  obtain ⟨report, after, done⟩ := (admits_of_accepts accepts serves).provisioned faultless
  obtain ⟨told, -⟩ := done.effect faultless
  obtain ⟨value, state⟩ := provision_run_iff.2 done
  rw [value, state, told]
  refine ⟨rfl, ?_⟩
  cases done with
  | @steps admin user marker middle last stored password accepted ensured planned =>
    have middleFaultless : middle.Faultless := ensured.faults.trans faultless
    rw [planned.eq_withPlanned middleFaultless, ensured.eq_withUser (opened_faultless faultless),
      opened_withUser, opened_withPlanned, close_opened]

/-- What a run comes to, by the first thing that stands against it. -/
inductive Fate (cluster : Cluster) (request : Request) : Except Failure Report → Cluster → Prop
  | rejected {failure : Failure} (rejects : cluster.Rejects request failure) :
      Fate cluster request (.error failure) cluster
  | declined {admin : User} {failure : Failure} (accepts : cluster.Accepts request admin)
      (declines : cluster.Declines admin.grants request.target request.plan failure) :
      Fate cluster request (.error failure) (cluster.withUser request.account)
  | served {admin : User} (accepts : cluster.Accepts request admin)
      (serves : cluster.Serves admin.grants request.target request.plan) :
      Fate cluster request (.ok (cluster.reportOf request))
        ((cluster.withUser request.account).withPlanned request.target request.plan request.stamp)

theorem provision_fate (faultless : cluster.Faultless) (request : Request) :
    Fate cluster request (request.provision.run handler cluster).value
      (request.provision.run handler cluster).state := by
  rcases accepts_or_rejects cluster request with ⟨admin, accepts⟩ | ⟨failure, rejects⟩
  · rcases serves_or_declines cluster admin.grants request.target request.plan with
      serves | ⟨failure, declines⟩
    · obtain ⟨value, state⟩ := serves.provision_run faultless accepts
      rw [value, state]
      exact .served accepts serves
    · obtain ⟨value, state⟩ := declines.provision_run faultless accepts
      rw [value, state]
      exact .declined accepts declines
  · obtain ⟨value, state⟩ := rejects.run faultless
    rw [value, state]
    exact .rejected rejects

theorem Fate.ok_iff {value : Except Failure Report} (fate : Fate cluster request value after) :
    (∃ report, value = .ok report) ↔
      ∃ admin, cluster.Accepts request admin ∧
        cluster.Serves admin.grants request.target request.plan := by
  cases fate with
  | rejected rejects =>
    refine iff_of_false nofun ?_
    rintro ⟨admin, accepts, -⟩
    exact rejects.not_accepts ⟨admin, accepts⟩
  | declined accepts declines =>
    refine iff_of_false nofun ?_
    rintro ⟨other, again, serves⟩
    obtain rfl := accepts.toLogsIn.unique again.toLogsIn
    exact declines.not_serves serves
  | served accepts serves => exact iff_of_true ⟨_, rfl⟩ ⟨_, accepts, serves⟩

theorem Fate.of_ok {report : Report} (fate : Fate cluster request (.ok report) after) :
    report = cluster.reportOf request ∧
      after = (cluster.withUser request.account).withPlanned request.target request.plan
        request.stamp := by
  cases fate
  exact ⟨rfl, rfl⟩

theorem Fate.of_error (fate : Fate cluster request (.error failure) after) :
    (¬∃ admin, cluster.Accepts request admin) ∧ cluster.Rejects request failure ∧
        after = cluster ∨
      ∃ admin, cluster.Accepts request admin ∧
        cluster.Declines admin.grants request.target request.plan failure ∧
        after = cluster.withUser request.account := by
  cases fate with
  | rejected rejects => exact .inl ⟨rejects.not_accepts, rejects, rfl⟩
  | declined accepts declines => exact .inr ⟨_, accepts, declines, rfl⟩

/-- The exact outcome of every run: when it succeeds, what it then reports and leaves, and what a
run that fails tells and leaves. -/
theorem provision_outcome (faultless : cluster.Faultless) (request : Request) :
    let ran := request.provision.run handler cluster
    let peopled := cluster.withUser request.account
    ((∃ report, ran.value = .ok report) ↔
      ∃ admin, cluster.Accepts request admin ∧
        cluster.Serves admin.grants request.target request.plan) ∧
    (∀ report, ran.value = .ok report →
      report = cluster.reportOf request ∧
        ran.state = peopled.withPlanned request.target request.plan request.stamp) ∧
    ∀ failure, ran.value = .error failure →
      (¬∃ admin, cluster.Accepts request admin) ∧ cluster.Rejects request failure ∧
          ran.state = cluster ∨
        ∃ admin, cluster.Accepts request admin ∧
          cluster.Declines admin.grants request.target request.plan failure ∧
          ran.state = peopled := by
  intro ran peopled
  have fate : Fate cluster request ran.value ran.state := provision_fate faultless request
  refine ⟨fate.ok_iff, fun report told => ?_, fun failure failed => ?_⟩
  · rw [told] at fate
    exact fate.of_ok
  · rw [failed] at fate
    exact fate.of_error

/-- An administrator who may manage the users of a database and may not read it. -/
def staffed : Cluster where
  users := Table.empty.insert ("admin", "root") ⟨"secret", [⟨"userAdmin", "app"⟩]⟩

/-- A plan that the administrator may not carry out leaves the user behind. -/
theorem declined_plan_leaves_user :
    let ran := Request.sample.provision.run handler staffed
    staffed.Faultless ∧
      ran.value = .error (.marker "app" "description"
        "not authorized: not authorized on app to read") ∧
      ran.state = staffed.withUser Request.sample.account ∧
      ran.state.writes = 1 := by
  have failed : (Request.sample.provision.run handler staffed).value = .error (.marker "app"
      "description" "not authorized: not authorized on app to read") := by cbv
  have accepts : staffed.Accepts Request.sample ⟨"secret", [⟨"userAdmin", "app"⟩]⟩ :=
    ⟨⟨by decide, rfl⟩, by cbv, by decide, .inr (by decide)⟩
  obtain ⟨-, -, outcome⟩ := @provision_outcome staffed rfl Request.sample
  rcases outcome _ failed with ⟨refused, -⟩ | ⟨-, -, -, left⟩
  · exact absurd ⟨_, accepts⟩ refused
  · exact ⟨rfl, failed, left, left ▸ rfl⟩

end Cluster

end Provision
