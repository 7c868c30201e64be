import Mathlib
import Provision.Proofs.Admission
import Provision.Proofs.Asked
/-!
Runs that fail or are stopped, and the run that makes up for them.

However far attempts get, and whatever faults they meet, they leave nothing but a part of what one
undisturbed run would have left. The next run takes that part as it finds it and adds the rest.
-/

namespace Provision.Cluster

/-- How much of a run from a start is done on a cluster. A collection is only filled if it had no
documents at the start, and then by one marker. -/
structure Progress (start : Cluster) (request : Request) (cluster : Cluster) : Prop where
  users : cluster.users = start.users ∨ start.holds (.user request.account.key) = false ∧
    cluster.users = start.users.insert request.account.key request.account.user
  collections : cluster.collections = start.collections ∨
    ∃ collection version, request.plan = .seed collection version ∧
      start.records request.target collection = [] ∧
      ∃ records, cluster.collections =
          start.collections.insert (request.target, collection) records ∧
        (records = [] ∨ ∃ stamp, records = [⟨Marker.identifier, .fresh version stamp⟩])

variable {start before after cluster : Cluster} {request : Request} {session : Session}

theorem Progress.refl (start : Cluster) (request : Request) : start.Progress request start :=
  ⟨.inl rfl, .inl rfl⟩

theorem Progress.of_stored_eq (progress : start.Progress request before)
    (users : after.users = before.users) (collections : after.collections = before.collections) :
    start.Progress request after := by
  constructor
  · rw [users]
    exact progress.users
  · rw [collections]
    exact progress.collections

theorem Progress.restamped (progress : start.Progress request cluster) (stamp : Int64) :
    start.Progress { request with stamp := stamp } cluster :=
  ⟨progress.users, progress.collections⟩

theorem Progress.create (progress : start.Progress request before)
    (written : Written before (.createUser request.account) after) :
    start.Progress request after := by
  cases written with
  | user known absent =>
    refine ⟨.inr ?_, progress.collections⟩
    rcases progress.users with same | ⟨-, inserted⟩
    · constructor
      · simpa [holds, hasUser, same] using absent
      · simp only [same]
    · simp [holds, hasUser, Table.contains, inserted, Table.find?_insert] at absent

theorem Progress.ensure {collection version : String} (progress : start.Progress request before)
    (plan : request.plan = .seed collection version)
    (written : Written before (.ensureCollection request.target collection) after) :
    start.Progress request after := by
  cases written with
  | collection absent =>
    refine ⟨progress.users, .inr ⟨collection, version, plan, ?_⟩⟩
    rcases progress.collections with same | ⟨other, again, planned, -, records, inserted, -⟩
    · have missing : start.collections.find? (request.target, collection) = none := by
        simpa [holds, hasCollection, Table.contains, same] using absent
      constructor
      · simp [records, missing]
      · exact ⟨[], by simp only [same], .inl rfl⟩
    · rw [plan] at planned
      cases planned
      simp [holds, hasCollection, Table.contains, inserted, Table.find?_insert] at absent

theorem Progress.insert {collection version : String} {stamp : Int64}
    (progress : start.Progress request before) (plan : request.plan = .seed collection version)
    (empty : before.records request.target collection = [])
    (written : Written before
      (.insertMarker request.target collection (.fresh version stamp)) after) :
    start.Progress request after := by
  cases written with
  | marker absent =>
    refine ⟨progress.users, .inr ⟨collection, version, plan, ?_⟩⟩
    simp only [append, wrote, empty, List.nil_append]
    rcases progress.collections with same | ⟨other, again, planned, bare, records, inserted, -⟩
    · rw [records_congr same] at empty
      rw [same]
      exact ⟨empty, _, rfl, .inr ⟨stamp, rfl⟩⟩
    · rw [plan] at planned
      cases planned
      refine ⟨bare, _, ?_, .inr ⟨stamp, rfl⟩⟩
      rw [inserted, Table.insert_insert]

def attempting (start : Cluster) (request : Request) : Contract Cluster :=
  .alone fun before after => start.Progress request before → start.Progress request after

theorem progresses_of_asks {α : Type} {body : Program Calls α}
    (asks : body.Asks fun call : Call => ∀ before after, Written before call after →
      start.Progress request before → start.Progress request after) :
    body.Respects (callsOn handler session) (attempting start request) (fun _ _ => True)
      cluster := by
  induction body generalizing cluster with
  | done value => exact fun _ _ => trivial
  | emit event rest ih => exact ih asks
  | perform call next ih =>
    rintro later rfl
    refine ⟨fun progress => ?_, ih _ (asks.2 _)⟩
    exact answer_induction (start.Progress request) session progress fun after written =>
      asks.1 cluster after written progress

theorem ensureUser_progresses : (ensureUser request.account).Respects (callsOn handler session)
    (attempting start request) (fun _ _ => True) cluster := by
  apply progresses_of_asks
  apply (ensureUser_asks request.account).mono
  rintro call (_ | _) before after written progress
  · cases written
  · exact progress.create written

variable {collection version : String} {stamp : Int64}

theorem seedMarker_progresses (plan : request.plan = .seed collection version)
    (empty : cluster.records request.target collection = []) :
    (seedMarker request.target collection (.fresh version stamp)).Respects
      (callsOn handler session) (attempting start request) (fun _ _ => True) cluster := by
  rintro later rfl
  constructor
  · intro progress
    exact answer_induction (start.Progress request) session progress fun after written =>
      progress.insert plan empty written
  · cases (callsOn handler session
        (.insertMarker request.target collection (.fresh version stamp)) cluster).1 with
    | ok value => exact fun _ _ => trivial
    | error fault => cases already : fault.isAlreadyExists <;> simp [already, Program.Respects]

theorem ensureCollection_records {database collection : String} (session : Session)
    (empty : cluster.records database collection = []) :
    (cluster.answer session (.ensureCollection database collection)).2.records database
      collection = [] := by
  apply answer_induction (fun after => after.records database collection = []) session empty
  intro after written
  cases written with
  | collection => exact (records_of_insert rfl _ _).trans (if_pos rfl)

/-- What is inserted depends on the look-up, which nobody else can make stale. -/
theorem ensureMarker_progresses (plan : request.plan = .seed collection version) :
    (ensureMarker request.target collection version stamp).Respects (callsOn handler session)
      (attempting start request) (fun _ _ => True) cluster := by
  by_cases named : collection = ""
  · subst named
    exact fun _ _ => trivial
  by_cases versioned : version = ""
  · simp [ensureMarker, named, versioned, Program.Respects]
  rw [ensureMarker_of_named stamp named versioned]
  intro later same
  subst same
  have unmoved := unmoved_of_read cluster session
    (show (Call.findMarker request.target collection).adds = none from rfl)
  cases asked : cluster.answer session (.findMarker request.target collection) with
  | mk reply middle =>
  rw [asked] at unmoved
  subst unmoved
  simp only [callsOn, handler, asked]
  refine ⟨fun progress => progress, ?_⟩
  cases reply with
  | error fault => exact fun _ _ => trivial
  | ok found =>
    cases found with
    | some marker => exact fun _ _ => trivial
    | none =>
      have found : (middle.documents request.target collection).head? = none :=
        Except.ok.inj (Prod.mk.inj (answer_ok asked).2).1
      have empty : middle.records request.target collection = [] := by
        simpa [documents] using found
      intro later same
      subst same
      have still := ensureCollection_records session empty
      have ensures : start.Progress request middle → start.Progress request
          (middle.answer session (.ensureCollection request.target collection)).2 := by
        intro progress
        exact answer_induction (start.Progress request) session progress fun after written =>
          progress.ensure plan written
      cases made : middle.answer session (.ensureCollection request.target collection) with
      | mk reply after =>
      rw [made] at still ensures
      simp only [callsOn, handler, made]
      refine ⟨ensures, ?_⟩
      cases reply with
      | ok value => exact seedMarker_progresses plan still
      | error fault =>
        cases already : fault.isAlreadyExists with
        | true =>
          simp only [already, ↓reduceIte]
          exact seedMarker_progresses plan still
        | false => simp [already, Program.Respects]

theorem body_progresses :
    request.body.Respects (callsOn handler session) (attempting start request)
      (fun _ _ => True) cluster := by
  unfold Request.body
  cases request.account.check request.target with
  | error failure => exact fun _ _ => trivial
  | ok value =>
    refine Program.Respects.bind (ensureUser_progresses.weaken ?_)
    intro result middle _
    cases result with
    | error failure => exact fun _ _ => trivial
    | ok user =>
      have planned : (applyPlan request.target request.plan request.stamp).Respects
          (callsOn handler session) (attempting start request) (fun _ _ => True) middle := by
        cases plan : request.plan with
        | skip => exact fun _ _ => trivial
        | seed collection version => exact ensureMarker_progresses plan
      refine Program.Respects.bind (planned.weaken ?_)
      intro result last _
      cases result <;> exact fun _ _ => trivial

theorem provision_progresses :
    request.provision.Respects handler (attempting start request) (fun _ _ => True) cluster := by
  apply Request.provision_respects
  · intro later _ progress
    obtain ⟨users, collections, -⟩ := openSession_stored later request.scope request.admin
    exact progress.of_stored_eq users collections
  · intros
    trivial
  · intro later session after _ _
    apply body_progresses.weaken
    intro result middle _ closing _
    refine ⟨?_, fun _ _ => trivial⟩
    intro progress
    obtain ⟨users, collections, -⟩ := close_stored closing
    exact progress.of_stored_eq users collections

structure Attempt where
  /-- What the cluster is made to answer during the attempt. -/
  faults : FaultPoint → Option Fault
  stamp : Int64
  /-- After how many operations the attempt is cut off, unless it is left to end by itself. -/
  cutoff : Option Nat

def Attempt.leaves (attempt : Attempt) (request : Request) (cluster : Cluster) : Cluster :=
  let program := Request.provision (S := Session) { request with stamp := attempt.stamp }
  let disturbed := { cluster with faults := attempt.faults }
  match attempt.cutoff with
  | none => (program.run handler disturbed).state
  | some operations => (program.advances handler operations disturbed).state

def leftBy (attempts : List Attempt) (request : Request) (cluster : Cluster) : Cluster :=
  attempts.foldl (fun reached attempt => attempt.leaves request reached) cluster

theorem Progress.moved (progress : start.Progress request before)
    (moves : Relation.ReflTransGen (attempting start request).guarantee before after) :
    start.Progress request after := by
  induction moves with
  | refl => exact progress
  | tail _ step ih => exact step ih

/-- Whatever becomes of an attempt, it leaves part of a run. -/
theorem Progress.attempt (progress : start.Progress request cluster) (attempt : Attempt) :
    start.Progress request (attempt.leaves request cluster) := by
  have disturbed : start.Progress { request with stamp := attempt.stamp }
      { cluster with faults := attempt.faults } :=
    (progress.restamped attempt.stamp).of_stored_eq rfl rfl
  have reached : start.Progress { request with stamp := attempt.stamp }
      (attempt.leaves request cluster) := by
    unfold Attempt.leaves
    cases attempt.cutoff with
    | none => exact disturbed.moved provision_progresses.run_guarantee
    | some operations =>
      exact disturbed.moved (provision_progresses.advances_guarantee operations)
  exact reached.restamped request.stamp

theorem Progress.attempts (attempts : List Attempt) (progress : start.Progress request cluster) :
    start.Progress request (leftBy attempts request cluster) := by
  induction attempts generalizing cluster with
  | nil => exact progress
  | cons attempt rest ih => exact ih (progress.attempt attempt)

theorem Progress.grows (progress : start.Progress request cluster) : Grows start cluster where
  users := by
    intro key user found
    rcases progress.users with same | ⟨absent, inserted⟩
    · rw [same]
      exact found
    · rw [inserted, Table.find?_insert]
      split
      case isTrue same => simp [holds, hasUser, Table.contains, same, found] at absent
      case isFalse => exact found
  collections := by
    intro key held found
    rcases progress.collections with same | ⟨collection, version, -, empty, records, inserted, -⟩
    · exact ⟨[], by rw [same, found, List.append_nil]⟩
    · rw [inserted, Table.find?_insert]
      split
      case isTrue same =>
        subst same
        have bare : held = [] := by simpa [Cluster.records, found] using empty
        exact ⟨records, by rw [bare, List.nil_append]⟩
      case isFalse => exact ⟨[], by rw [found, List.append_nil]⟩

theorem Progress.usersAfter_eq (progress : start.Progress request cluster) :
    cluster.usersAfter request = start.usersAfter request := by
  unfold usersAfter
  rcases progress.users with same | ⟨absent, inserted⟩
  · have holding : cluster.holds (.user request.account.key) =
        start.holds (.user request.account.key) := by
      simp only [holds, hasUser, same]
    rw [holding, same]
  · have there : cluster.holds (.user request.account.key) = true := by
      simp [holds, hasUser, Table.contains, inserted, Table.find?_insert]
    simp only [there, absent, inserted, ↓reduceIte, Bool.false_eq_true]

theorem Progress.collectionsAfter_eq (progress : start.Progress request cluster) :
    ∃ stamp, cluster.collectionsAfter request =
      start.collectionsAfter { request with stamp := stamp } := by
  rcases progress.collections with
    same | ⟨collection, version, plan, empty, records, inserted, part⟩
  · refine ⟨request.stamp, ?_⟩
    unfold collectionsAfter
    cases plan : request.plan with
    | skip => exact same
    | seed collection version => simp only [records_congr same, same]
  · have filled : cluster.records request.target collection = records :=
      (records_of_insert inserted _ _).trans (if_pos rfl)
    rcases part with bare | ⟨stamp, marked⟩
    · refine ⟨request.stamp, ?_⟩
      simp only [collectionsAfter, plan, filled, bare, empty, ↓reduceIte, inserted,
        Table.insert_insert]
    · refine ⟨stamp, ?_⟩
      simp only [collectionsAfter, plan, filled, marked, empty, ↓reduceIte, inserted,
        reduceCtorEq]

/-- Two runs at different times leave the same, up to the time on a marker they have seeded. -/
def SameButStamp (request : Request) (first second : Table (List Record)) : Prop :=
  ∀ key, first.find? key = second.find? key ∨
    ∃ collection version stamp other, request.plan = .seed collection version ∧
      key = (request.target, collection) ∧
      first.find? key = some [⟨Marker.identifier, .fresh version stamp⟩] ∧
      second.find? key = some [⟨Marker.identifier, .fresh version other⟩]

theorem collectionsAfter_sameButStamp (start : Cluster) (request : Request)
    (stamp other : Int64) :
    SameButStamp request (start.collectionsAfter { request with stamp := stamp })
      (start.collectionsAfter { request with stamp := other }) := by
  intro key
  unfold collectionsAfter
  cases plan : request.plan with
  | skip => exact .inl rfl
  | seed collection version =>
    by_cases empty : start.records request.target collection = []
    · by_cases same : (request.target, collection) = key
      · right
        refine ⟨collection, version, stamp, other, rfl, same.symm, ?_, ?_⟩
        · simp [empty, Table.find?_insert, same]
        · simp [empty, Table.find?_insert, same]
      · left
        simp [empty, Table.find?_insert, same]
    · left
      simp [empty]

/-- Whatever earlier attempts ran into and wherever they were cut off, the run that follows them
on a cluster without faults ends well, and leaves what a first run would have left. -/
theorem run_recovers {start : Cluster} {request : Request} {report : Report}
    (faultless : start.Faultless)
    (succeeds : (request.provision.run handler start).value = .ok report)
    (attempts : List Attempt) (stamp : Int64) :
    let clean := request.provision.run handler start
    let last := Program.run handler
      (Request.provision (S := Session) { request with stamp := stamp })
      (leftBy attempts request start).clearFaults
    (∃ final, last.value = .ok final) ∧ last.state.users = clean.state.users ∧
      SameButStamp request last.state.collections clean.state.collections := by
  intro clean last
  have done := provision_run_iff.1 ⟨succeeds, rfl⟩
  obtain ⟨admin, admits⟩ := done.admits faultless
  obtain ⟨-, users, collections⟩ := done.effect faultless
  have progress : start.Progress { request with stamp := stamp }
      (leftBy attempts request start).clearFaults := by
    have attempted := (Progress.refl start request).attempts attempts
    have cleared : start.Progress request (leftBy attempts request start).clearFaults :=
      attempted.of_stored_eq rfl rfl
    exact cleared.restamped stamp
  have ready : (leftBy attempts request start).clearFaults.Faultless := rfl
  obtain ⟨final, after, completed⟩ :=
    ((admits.restamped stamp).kept progress.grows).provisioned ready
  obtain ⟨value, state⟩ := provision_run_iff.2 completed
  obtain ⟨-, lastUsers, lastCollections⟩ := completed.effect ready
  obtain ⟨written, reached⟩ := progress.collectionsAfter_eq
  refine ⟨⟨final, value⟩, ?_, ?_⟩
  · calc
      last.state.users = after.users := by rw [state]
      _ = start.usersAfter request := lastUsers.trans progress.usersAfter_eq
      _ = clean.state.users := users.symm
  · rw [state, lastCollections, reached, collections]
    exact collectionsAfter_sameButStamp start request written request.stamp

/-- An attempt that loses its marker, and one that is cut off behind its first look-up. -/
def Attempt.samples : List Attempt :=
  [⟨fun point => if point = .insertMarker then some ⟨.unavailable, "gone"⟩ else none, 6, none⟩,
    ⟨fun _ => none, 7, some 3⟩]

/-- They leave a collection without documents, which the next run takes as its own. -/
theorem run_recovers_lost_marker :
    let left := leftBy Attempt.samples Request.sample sample
    let clean := Request.sample.provision.run handler sample
    let last := Program.run handler
      (Request.provision (S := Session) { Request.sample with stamp := 8 }) left.clearFaults
    left.collections.find? ("app", "description") = some [] ∧
      (∃ final, last.value = .ok final) ∧ last.state.users = clean.state.users ∧
      SameButStamp Request.sample last.state.collections clean.state.collections := by
  have succeeds : (Request.sample.provision.run handler sample).value =
      .ok ⟨.created, .seeded⟩ := by cbv
  have emptied : (leftBy Attempt.samples Request.sample sample).collections.find?
      ("app", "description") = some [] := by cbv
  exact ⟨emptied, run_recovers (show sample.Faultless from rfl) succeeds Attempt.samples 8⟩

end Provision.Cluster
