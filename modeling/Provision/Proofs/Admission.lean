import Provision.Proofs.Alone
/-!
What a cluster without faults asks of a run, and what the run then leaves.

A run succeeds alone exactly if the cluster admits it: the administrator logs in, the account passes
its check, and the privileges reach as far as something is left to do. What it leaves is told by the
cluster and the request.
-/

namespace Provision

theorem Account.database_of_check {account : Account} {target : String}
    (accepted : account.check target = .ok ()) : account.database = target := by
  unfold Account.check Account.rejection at accepted
  by_cases nameless : target.isEmpty = true
  · simp [nameless] at accepted
  · by_cases same : account.database = target
    · exact same
    · simp [nameless, same] at accepted

theorem Account.target_ne_of_check {account : Account} {target : String}
    (accepted : account.check target = .ok ()) : target ≠ "" := by
  rintro rfl
  cases accepted

namespace Cluster

def Faultless (cluster : Cluster) : Prop :=
  cluster.faults = fun _ => none

structure Admits (cluster : Cluster) (request : Request) (admin : User) : Prop where
  stored : cluster.users.find? (request.scope, request.admin.username) = some admin
  password : admin.password = request.admin.password
  accepted : request.account.check request.target = .ok ()
  manages : Session.holds admin.grants .manageUsers request.target = true
  /-- Roles are looked at only where the user has to be created. -/
  known : cluster.holds (.user request.account.key) = false →
    unknownRole request.account.grants = none
  planned : ∀ collection version, request.plan = .seed collection version →
    collection ≠ "" ∧ version ≠ "" ∧ Session.holds admin.grants .read request.target = true ∧
      (cluster.records request.target collection = [] →
        Session.holds admin.grants .write request.target = true)

def usersAfter (cluster : Cluster) (request : Request) : Table User :=
  if cluster.holds (.user request.account.key) then cluster.users
  else cluster.users.insert request.account.key request.account.user

def collectionsAfter (cluster : Cluster) (request : Request) : Table (List Record) :=
  match request.plan with
  | .skip => cluster.collections
  | .seed collection version =>
    if cluster.records request.target collection = [] then
      cluster.collections.insert (request.target, collection)
        [⟨Marker.identifier, .fresh version request.stamp⟩]
    else cluster.collections

def reportOf (cluster : Cluster) (request : Request) : Report where
  user := if cluster.holds (.user request.account.key) then .alreadyPresent else .created
  marker := match request.plan with
    | .skip => .skipped
    | .seed collection _ =>
      if cluster.records request.target collection = [] then .seeded else .alreadyPresent

variable {cluster after : Cluster} {session : Session} {request : Request} {report : Report}

theorem Faultless.not_pretends (faultless : cluster.Faultless) (point : FaultPoint) :
    ¬cluster.Pretends point := by
  rintro ⟨fault, injected, -⟩
  rw [faultless] at injected
  cases injected

theorem refusal_eq_none_iff {call : Call} : session.refusal call = none ↔
    ∀ privilege database, call.needs = some (privilege, database) →
      session.holds privilege database = true := by
  unfold Session.refusal
  cases needed : call.needs with
  | none => simp
  | some need =>
    obtain ⟨privilege, database⟩ := need
    by_cases held : session.holds privilege database = true
    · simp [held]
    · simp [held]

theorem Permits.of_holds {call : Call} {privilege : Privilege} {database : String}
    (faultless : cluster.Faultless) (needs : call.needs = some (privilege, database))
    (held : session.holds privilege database = true) : cluster.Permits session call := by
  refine ⟨by rw [faultless], refusal_eq_none_iff.2 ?_⟩
  intro privilege database needed
  obtain ⟨rfl, rfl⟩ := Prod.mk.inj (Option.some.inj (needs.symm.trans needed))
  exact held

theorem Permits.holds {call : Call} {privilege : Privilege} {database : String}
    (permits : cluster.Permits session call) (needs : call.needs = some (privilege, database)) :
    session.holds privilege database = true :=
  refusal_eq_none_iff.1 permits.allowed privilege database needs

theorem UserStep.faultless {account : Account} {outcome : UserOutcome}
    (faultless : cluster.Faultless)
    (step : UserStep cluster session account outcome after) :
    session.holds .manageUsers account.database = true ∧
      (cluster.holds (.user account.key) = false → unknownRole account.grants = none) ∧
      (outcome = if cluster.holds (.user account.key) then .alreadyPresent else .created) ∧
      after.users = (if cluster.holds (.user account.key) then cluster.users
        else cluster.users.insert account.key account.user) ∧
      after.collections = cluster.collections := by
  cases step with
  | present asked there => simp [asked.holds rfl, there]
  | created asked permits written =>
    cases written with
    | user known absent => simp [asked.holds rfl, known, absent]
  | pretended _ _ pretends => exact absurd pretends (faultless.not_pretends _)

theorem MarkerStep.faultless {database collection : String} {marker : Marker}
    {outcome : MarkerOutcome} (faultless : cluster.Faultless)
    (step : MarkerStep cluster session database collection marker outcome after) :
    session.holds .read database = true ∧
      (cluster.records database collection = [] → session.holds .write database = true) ∧
      (outcome = if cluster.records database collection = [] then .seeded else .alreadyPresent) ∧
      after.users = cluster.users ∧
      after.collections = (if cluster.records database collection = [] then
        cluster.collections.insert (database, collection) [⟨Marker.identifier, marker⟩]
        else cluster.collections) := by
  cases step with
  | present asked documented => simp [asked.holds rfl, documented]
  | @seeded middle _ asked empty ensured permits written =>
    have still : middle.records database collection = [] := ensured.records.trans empty
    cases written with
    | marker =>
      simp only [empty, ↓reduceIte, asked.holds rfl, permits.holds rfl, implies_true, true_and,
        append, wrote, still, List.nil_append]
      cases ensured with
      | created _ written =>
        cases written with
        | collection => exact ⟨rfl, Table.insert_insert _ _ _ _⟩
      | there | pretended => exact ⟨rfl, rfl⟩
  | pretended _ _ ensured pretends =>
    exact absurd (pretends.kept ensured.faults.symm) (faultless.not_pretends _)

theorem UserStep.of_admits {account : Account} (faultless : cluster.Faultless)
    (manages : session.holds .manageUsers account.database = true)
    (known : cluster.holds (.user account.key) = false → unknownRole account.grants = none) :
    ∃ outcome after, UserStep cluster session account outcome after := by
  have asked : cluster.Permits session (.userExists account.database account.username) :=
    .of_holds faultless rfl manages
  cases absent : cluster.holds (.user account.key) with
  | true => exact ⟨_, _, .present asked absent⟩
  | false =>
    have permits : cluster.Permits session (.createUser account) := .of_holds faultless rfl manages
    exact ⟨_, _, .created asked permits (.user (known absent) absent)⟩

theorem MarkerStep.of_admits {database collection : String} (marker : Marker)
    (faultless : cluster.Faultless) (reads : session.holds .read database = true)
    (writes : cluster.records database collection = [] → session.holds .write database = true) :
    ∃ outcome after, MarkerStep cluster session database collection marker outcome after := by
  have asked : cluster.Permits session (.findMarker database collection) :=
    .of_holds faultless rfl reads
  by_cases empty : cluster.records database collection = []
  · have permits : cluster.Permits session (.ensureCollection database collection) :=
      .of_holds faultless rfl (writes empty)
    have ensured : ∃ middle, CollectionStep cluster session database collection middle := by
      cases absent : cluster.holds (.collection (database, collection)) with
      | true => exact ⟨_, .there permits absent⟩
      | false => exact ⟨_, .created permits (.collection absent)⟩
    obtain ⟨middle, step⟩ := ensured
    have allowed : middle.Permits session (.insertMarker database collection marker) :=
      .of_holds (step.faults.trans faultless) rfl (writes empty)
    have absent : middle.holds (.marker (database, collection)) = false :=
      holds_marker_of_empty (step.records.trans empty)
    exact ⟨_, _, .seeded asked empty step allowed (.marker absent)⟩
  · exact ⟨_, _, .present asked empty⟩

theorem opened_faultless (faultless : cluster.Faultless) : cluster.opened.Faultless :=
  faultless

theorem Provisioned.admits (faultless : cluster.Faultless)
    (done : Provisioned cluster request report after) : ∃ admin, cluster.Admits request admin := by
  cases done with
  | @steps admin user marker middle last stored password accepted ensured planned =>
    have database := Account.database_of_check accepted
    obtain ⟨manages, known, -, -, collections⟩ := ensured.faultless (opened_faultless faultless)
    refine ⟨admin, stored, password, accepted, database ▸ manages, known, ?_⟩
    intro collection version plan
    unfold PlanStep at planned
    rw [plan] at planned
    obtain ⟨named, versioned, marked⟩ := planned
    obtain ⟨reads, writes, -⟩ := marked.faultless (ensured.faults.trans faultless)
    rw [records_congr collections] at writes
    exact ⟨named, versioned, reads, writes⟩

theorem Admits.kept {admin : User} (admits : cluster.Admits request admin)
    (grows : Grows cluster after) : after.Admits request admin where
  stored := grows.users _ _ admits.stored
  password := admits.password
  accepted := admits.accepted
  manages := admits.manages
  known := fun absent => admits.known (grows.absent absent)
  planned := by
    intro collection version plan
    obtain ⟨named, versioned, reads, writes⟩ := admits.planned collection version plan
    exact ⟨named, versioned, reads, fun empty => writes (grows.records_eq_nil empty)⟩

theorem Admits.restamped {admin : User} (admits : cluster.Admits request admin) (stamp : Int64) :
    cluster.Admits { request with stamp := stamp } admin :=
  ⟨admits.stored, admits.password, admits.accepted, admits.manages, admits.known, admits.planned⟩

/-- A run succeeds on every cluster that admits it. -/
theorem Admits.provisioned {admin : User} (faultless : cluster.Faultless)
    (admits : cluster.Admits request admin) :
    ∃ report after, Provisioned cluster request report after := by
  have manages : Session.holds admin.grants .manageUsers request.account.database = true := by
    rw [Account.database_of_check admits.accepted]
    exact admits.manages
  obtain ⟨user, middle, ensured⟩ :=
    UserStep.of_admits (opened_faultless faultless) manages admits.known
  have planned : ∃ marker last, PlanStep middle admin.grants request.target request.plan
      request.stamp marker last := by
    cases plan : request.plan with
    | skip => exact ⟨_, _, rfl, rfl⟩
    | seed collection version =>
      obtain ⟨named, versioned, reads, writes⟩ := admits.planned collection version plan
      obtain ⟨-, -, -, -, collections⟩ := ensured.faultless (opened_faultless faultless)
      have same : middle.records request.target collection =
          cluster.records request.target collection := records_congr collections _ _
      rw [← same] at writes
      obtain ⟨marker, last, marked⟩ :=
        MarkerStep.of_admits (.fresh version request.stamp) (ensured.faults.trans faultless) reads
          writes
      exact ⟨marker, last, named, versioned, marked⟩
  obtain ⟨marker, last, step⟩ := planned
  exact ⟨_, _, .steps admits.stored admits.password admits.accepted ensured step⟩

theorem Provisioned.effect (faultless : cluster.Faultless)
    (done : Provisioned cluster request report after) :
    report = cluster.reportOf request ∧ after.users = cluster.usersAfter request ∧
      after.collections = cluster.collectionsAfter request := by
  cases done with
  | @steps admin user marker middle last stored password accepted ensured planned =>
    obtain ⟨-, -, outcome, users, collections⟩ := ensured.faultless (opened_faultless faultless)
    obtain ⟨stillUsers, stillCollections, -⟩ := close_stored last
    rw [stillUsers, stillCollections]
    unfold PlanStep at planned
    cases plan : request.plan with
    | skip =>
      simp only [plan] at planned
      obtain ⟨rfl, rfl⟩ := planned
      refine ⟨?_, users, ?_⟩
      · simp only [reportOf, plan, outcome]
        rfl
      · simp only [collectionsAfter, plan, collections]
        rfl
    | seed collection version =>
      simp only [plan] at planned
      obtain ⟨-, -, marked⟩ := planned
      obtain ⟨-, -, result, kept, inserted⟩ := marked.faultless (ensured.faults.trans faultless)
      have same : middle.records request.target collection =
          cluster.records request.target collection := records_congr collections _ _
      refine ⟨?_, kept.trans users, ?_⟩
      · simp only [reportOf, plan, outcome, result, same]
        rfl
      · simp only [collectionsAfter, plan, inserted, same, collections]
        rfl

end Cluster

end Provision
