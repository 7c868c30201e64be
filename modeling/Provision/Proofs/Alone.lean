import Provision.Proofs.Bracket
import Provision.Proofs.Growth
/-!
How a run that nobody disturbs succeeds on a cluster, and what it leaves.

Success is told step by step, with whatever faults are injected: each way in which the user step
and the marker step can end well is one case, with everything the cluster must have answered. A run
alone succeeds exactly when its steps do.
-/

namespace Provision

namespace Cluster

/-- Neither an injected fault nor a missing privilege stands against the call. -/
structure Permits (cluster : Cluster) (session : Session) (call : Call) : Prop where
  unfaulted : cluster.faults call.faultPoint = none
  allowed : session.refusal call = none

/-- A fault was injected that tells a writer that its work is done already. -/
def Pretends (cluster : Cluster) (point : FaultPoint) : Prop :=
  ∃ fault, cluster.faults point = some fault ∧ fault.isAlreadyExists = true

variable {cluster after : Cluster} {session : Session} {call : Call}

theorem answer_of_permits (permits : cluster.Permits session call) :
    cluster.answer session call = cluster.execute call := by
  simp only [answer, permits.unfaulted, permits.allowed]

theorem answer_of_fault {fault : Fault} (injected : cluster.faults call.faultPoint = some fault) :
    cluster.answer session call = (.error fault, cluster) := by
  simp only [answer, injected]

theorem answer_ok {value : call.Answer}
    (answered : cluster.answer session call = (.ok value, after)) :
    cluster.Permits session call ∧ cluster.execute call = (.ok value, after) := by
  unfold answer at answered
  cases unfaulted : cluster.faults call.faultPoint with
  | some fault => simp [unfaulted] at answered
  | none =>
    cases allowed : session.refusal call with
    | some refusal => simp [unfaulted, allowed] at answered
    | none => exact ⟨⟨unfaulted, allowed⟩, by simpa [unfaulted, allowed] using answered⟩

theorem answer_written {value : call.Answer} {item : Item} (adds : call.adds = some item)
    (answered : cluster.answer session call = (.ok value, after)) :
    cluster.Permits session call ∧ Written cluster call after := by
  refine ⟨(answer_ok answered).1, ?_⟩
  rcases answer_cases cluster session call with ⟨fault, other⟩ | ⟨value, other, nothing⟩ |
    ⟨value, last, other, written⟩
  · simp [answered] at other
  · simp [nothing] at adds
  · obtain ⟨-, rfl⟩ : _ ∧ after = last := by simpa [answered] using other
    exact written

theorem not_alreadyExists_of_refusal {refusal : Refusal}
    (refused : session.refusal call = some refusal) : refusal.fault.isAlreadyExists = false := by
  unfold Session.refusal at refused
  split at refused
  · cases refused
  · split at refused
    · cases refused
    · obtain rfl := Option.some.inj refused
      rfl

/-- What is carried out says "already exists" only of what is there. -/
theorem execute_alreadyExists {fault : Fault}
    (executed : cluster.execute call = (.error fault, after))
    (already : fault.isAlreadyExists = true) :
    after = cluster ∧ ∃ item, call.adds = some item ∧ cluster.holds item = true := by
  cases call with
  | userExists | findMarker | serverVersion | listCollections => simp [execute] at executed
  | createUser account =>
    simp only [execute, createUser_eq] at executed
    cases known : unknownRole account.grants with
    | some written =>
      obtain ⟨refused, -⟩ : (Refusal.unknownRole written).fault = fault ∧ cluster = after := by
        simpa [known, settle] using executed
      simp [← refused, Fault.isAlreadyExists, Refusal.fault] at already
    | none =>
      cases there : cluster.holds (.user account.key) with
      | false => simp [known, there, settle] at executed
      | true =>
        obtain ⟨-, rfl⟩ := by simpa [known, there, settle] using executed
        exact ⟨rfl, _, rfl, there⟩
  | ensureCollection database collection =>
    simp only [execute, createCollection_eq] at executed
    cases there : cluster.holds (.collection (database, collection)) with
    | false => simp [there, settle] at executed
    | true =>
      obtain ⟨-, rfl⟩ := by simpa [there, settle] using executed
      exact ⟨rfl, _, rfl, there⟩
  | insertMarker database collection marker =>
    simp only [execute, insertMarker_eq] at executed
    cases there : cluster.holds (.marker (database, collection)) with
    | false => simp [there, settle] at executed
    | true =>
      obtain ⟨-, rfl⟩ := by simpa [there, settle] using executed
      exact ⟨rfl, _, rfl, there⟩

theorem answer_alreadyExists {fault : Fault}
    (answered : cluster.answer session call = (.error fault, after))
    (already : fault.isAlreadyExists = true) :
    after = cluster ∧ (cluster.Pretends call.faultPoint ∨ cluster.Permits session call ∧
      ∃ item, call.adds = some item ∧ cluster.holds item = true) := by
  unfold answer at answered
  cases unfaulted : cluster.faults call.faultPoint with
  | some injected =>
    obtain ⟨rfl, rfl⟩ : injected = fault ∧ cluster = after := by
      simpa [unfaulted] using answered
    exact ⟨rfl, .inl ⟨injected, unfaulted, already⟩⟩
  | none =>
    cases allowed : session.refusal call with
    | some refusal =>
      obtain ⟨rfl, -⟩ : refusal.fault = fault ∧ cluster = after := by
        simpa [unfaulted, allowed] using answered
      rw [not_alreadyExists_of_refusal allowed] at already
      cases already
    | none =>
      have executed : cluster.execute call = (.error fault, after) := by
        simpa [unfaulted, allowed] using answered
      obtain ⟨unmoved, there⟩ := execute_alreadyExists executed already
      exact ⟨unmoved, .inr ⟨⟨unfaulted, allowed⟩, there⟩⟩

inductive UserStep (cluster : Cluster) (session : Session) (account : Account) :
    UserOutcome → Cluster → Prop
  | present (asked : cluster.Permits session (.userExists account.database account.username))
      (there : cluster.holds (.user account.key) = true) :
      UserStep cluster session account .alreadyPresent cluster
  | created {after : Cluster}
      (asked : cluster.Permits session (.userExists account.database account.username))
      (permits : cluster.Permits session (.createUser account))
      (written : Written cluster (.createUser account) after) :
      UserStep cluster session account .created after
  | pretended (asked : cluster.Permits session (.userExists account.database account.username))
      (absent : cluster.holds (.user account.key) = false)
      (pretends : cluster.Pretends .createUser) :
      UserStep cluster session account .alreadyPresent cluster

inductive CollectionStep (cluster : Cluster) (session : Session) (database collection : String) :
    Cluster → Prop
  | created {after : Cluster}
      (permits : cluster.Permits session (.ensureCollection database collection))
      (written : Written cluster (.ensureCollection database collection) after) :
      CollectionStep cluster session database collection after
  | there (permits : cluster.Permits session (.ensureCollection database collection))
      (there : cluster.holds (.collection (database, collection)) = true) :
      CollectionStep cluster session database collection cluster
  | pretended (pretends : cluster.Pretends .ensureCollection) :
      CollectionStep cluster session database collection cluster

inductive MarkerStep (cluster : Cluster) (session : Session) (database collection : String)
    (marker : Marker) : MarkerOutcome → Cluster → Prop
  | present (asked : cluster.Permits session (.findMarker database collection))
      (documented : cluster.records database collection ≠ []) :
      MarkerStep cluster session database collection marker .alreadyPresent cluster
  | seeded {middle after : Cluster}
      (asked : cluster.Permits session (.findMarker database collection))
      (empty : cluster.records database collection = [])
      (ensured : CollectionStep cluster session database collection middle)
      (permits : middle.Permits session (.insertMarker database collection marker))
      (written : Written middle (.insertMarker database collection marker) after) :
      MarkerStep cluster session database collection marker .seeded after
  | pretended {middle : Cluster}
      (asked : cluster.Permits session (.findMarker database collection))
      (empty : cluster.records database collection = [])
      (ensured : CollectionStep cluster session database collection middle)
      (pretends : middle.Pretends .insertMarker) :
      MarkerStep cluster session database collection marker .alreadyPresent middle

def PlanStep (cluster : Cluster) (session : Session) (target : String) (plan : MarkerPlan)
    (stamp : Int64) (outcome : MarkerOutcome) (after : Cluster) : Prop :=
  match plan with
  | .skip => outcome = .skipped ∧ after = cluster
  | .seed collection version => collection ≠ "" ∧ version ≠ "" ∧
      MarkerStep cluster session target collection (.fresh version stamp) outcome after

theorem answer_of_written (permits : cluster.Permits session call)
    (written : Written cluster call after) :
    ∃ value, cluster.answer session call = (.ok value, after) := by
  rw [answer_of_permits permits]
  cases written with
  | user known absent => exact ⟨(), by simp [execute, createUser_eq, settle, known, absent]⟩
  | collection absent => exact ⟨(), by simp [execute, createCollection_eq, settle, absent]⟩
  | marker absent => exact ⟨(), by simp [execute, insertMarker_eq, settle, absent]⟩

theorem UserStep.of_run {account : Account} {outcome : UserOutcome}
    (ran : ((ensureUser account).run (callsOn handler session) cluster).value = .ok outcome) :
    UserStep cluster session account outcome
      ((ensureUser account).run (callsOn handler session) cluster).state := by
  simp only [ensureUser, Program.run, callsOn, handler] at ran ⊢
  cases asked : cluster.answer session (.userExists account.database account.username) with
  | mk reply middle =>
  simp only [asked] at ran ⊢
  cases reply with
  | error fault => simp [Program.run] at ran
  | ok found =>
    obtain ⟨permits, executed⟩ := answer_ok asked
    obtain ⟨same, rfl⟩ : cluster.holds (.user account.key) = found ∧ cluster = middle :=
      ⟨Except.ok.inj (Prod.mk.inj executed).1, (Prod.mk.inj executed).2⟩
    cases found with
    | true =>
      obtain rfl : .alreadyPresent = outcome := by simpa [Program.run] using ran
      exact .present permits same
    | false =>
      simp only [Program.run] at ran ⊢
      cases made : cluster.answer session (.createUser account) with
      | mk reply last =>
      simp only [callsOn, handler, made] at ran ⊢
      cases reply with
      | ok value =>
        obtain ⟨allowed, written⟩ := answer_written rfl made
        obtain rfl : .created = outcome := by simpa [Program.run] using ran
        exact .created permits allowed written
      | error fault =>
        by_cases already : fault.isAlreadyExists = true
        · simp only [already, ↓reduceIte, Program.run] at ran ⊢
          obtain ⟨rfl, pretends | ⟨-, item, adds, there⟩⟩ := answer_alreadyExists made already
          · obtain rfl := Except.ok.inj ran
            exact .pretended permits same pretends
          · obtain rfl := Option.some.inj adds
            exact absurd there (by simpa [Account.key] using same)
        · simp [already, Program.run] at ran

theorem UserStep.run {account : Account} {outcome : UserOutcome}
    (step : UserStep cluster session account outcome after) :
    ((ensureUser account).run (callsOn handler session) cluster).value = .ok outcome ∧
      ((ensureUser account).run (callsOn handler session) cluster).state = after := by
  have found : cluster.hasUser account.database account.username =
      cluster.holds (.user account.key) := rfl
  cases step with
  | present asked there =>
    simp [ensureUser, Program.run, callsOn, handler, answer_of_permits asked, execute, found, there]
  | created asked permits written =>
    obtain ⟨value, made⟩ := answer_of_written permits written
    cases written with
    | user _ absent =>
      simp [ensureUser, Program.run, callsOn, handler, answer_of_permits asked, execute, found,
        absent, made]
  | pretended asked absent pretends =>
    obtain ⟨fault, injected, already⟩ := pretends
    have made : cluster.answer session (.createUser account) = (.error fault, cluster) :=
      answer_of_fault injected
    simp [ensureUser, Program.run, callsOn, handler, answer_of_permits asked, execute, found,
      absent, made, already]

theorem CollectionStep.of_answer {database collection : String}
    {reply : Except Fault Unit}
    (answered : cluster.answer session (.ensureCollection database collection) = (reply, after))
    (well : reply = .ok () ∨ ∃ fault, reply = .error fault ∧ fault.isAlreadyExists = true) :
    CollectionStep cluster session database collection after := by
  rcases well with rfl | ⟨fault, rfl, already⟩
  · obtain ⟨permits, written⟩ := answer_written rfl answered
    exact .created permits written
  · obtain ⟨rfl, pretends | ⟨permits, item, adds, there⟩⟩ := answer_alreadyExists answered already
    · exact .pretended pretends
    · obtain rfl := Option.some.inj adds
      exact .there permits there

theorem CollectionStep.answer {database collection : String}
    (step : CollectionStep cluster session database collection after) :
    ∃ reply : Except Fault Unit,
      cluster.answer session (.ensureCollection database collection) = (reply, after) ∧
        (reply = .ok () ∨ ∃ fault, reply = .error fault ∧ fault.isAlreadyExists = true) := by
  cases step with
  | created permits written =>
    obtain ⟨value, made⟩ := answer_of_written permits written
    exact ⟨.ok (), made, .inl rfl⟩
  | there permits there =>
    refine ⟨.error (Refusal.collectionExists database collection).fault, ?_, .inr ⟨_, rfl, rfl⟩⟩
    simp [answer_of_permits permits, execute, createCollection_eq, there, settle]
  | pretended pretends =>
    obtain ⟨fault, injected, already⟩ := pretends
    exact ⟨.error fault, answer_of_fault injected, .inr ⟨fault, rfl, already⟩⟩

theorem CollectionStep.records {database collection : String}
    (step : CollectionStep cluster session database collection after) :
    after.records database collection = cluster.records database collection := by
  cases step with
  | created permits written =>
    cases written with
    | collection absent =>
      have none : cluster.collections.find? (database, collection) = none := by
        simpa [holds, hasCollection, Table.contains] using absent
      simp [Cluster.records, Table.find?_insert, none]
  | there | pretended => rfl

theorem holds_marker_of_empty {database collection : String}
    (empty : cluster.records database collection = []) :
    cluster.holds (.marker (database, collection)) = false := by
  simp [holds, empty]

theorem MarkerStep.of_seed {database collection : String} {marker : Marker} {middle : Cluster}
    {outcome : MarkerOutcome}
    (asked : cluster.Permits session (.findMarker database collection))
    (empty : cluster.records database collection = [])
    (ensured : CollectionStep cluster session database collection middle)
    (ran : ((seedMarker database collection marker).run (callsOn handler session) middle).value =
      .ok outcome) :
    MarkerStep cluster session database collection marker outcome
      ((seedMarker database collection marker).run (callsOn handler session) middle).state := by
  have absent : middle.holds (.marker (database, collection)) = false :=
    holds_marker_of_empty (ensured.records.trans empty)
  simp only [seedMarker, Program.run] at ran ⊢
  cases made : middle.answer session (.insertMarker database collection marker) with
  | mk reply last =>
  simp only [callsOn, handler, made] at ran ⊢
  cases reply with
  | ok value =>
    obtain ⟨permits, written⟩ := answer_written rfl made
    obtain rfl : .seeded = outcome := by simpa [Program.run] using ran
    exact .seeded asked empty ensured permits written
  | error fault =>
    by_cases already : fault.isAlreadyExists = true
    · simp only [already, ↓reduceIte, Program.run] at ran ⊢
      obtain ⟨rfl, pretends | ⟨-, item, adds, there⟩⟩ := answer_alreadyExists made already
      · obtain rfl := Except.ok.inj ran
        exact .pretended asked empty ensured pretends
      · obtain rfl := Option.some.inj adds
        simp [absent] at there
    · simp [already, Program.run] at ran

theorem MarkerStep.of_run {database collection version : String} {stamp : Int64}
    {outcome : MarkerOutcome} (named : collection ≠ "") (versioned : version ≠ "")
    (ran : ((ensureMarker database collection version stamp).run (callsOn handler session)
      cluster).value = .ok outcome) :
    MarkerStep cluster session database collection (.fresh version stamp) outcome
      ((ensureMarker database collection version stamp).run (callsOn handler session)
        cluster).state := by
  rw [ensureMarker_of_named stamp named versioned] at ran ⊢
  simp only [Program.run, callsOn, handler] at ran ⊢
  cases asked : cluster.answer session (.findMarker database collection) with
  | mk reply found =>
  simp only [asked] at ran ⊢
  cases reply with
  | error fault => simp [Program.run] at ran
  | ok first =>
    obtain ⟨permits, executed⟩ := answer_ok asked
    obtain ⟨same, rfl⟩ : (cluster.documents database collection).head? = first ∧
        cluster = found := ⟨Except.ok.inj (Prod.mk.inj executed).1, (Prod.mk.inj executed).2⟩
    cases first with
    | some marker =>
      obtain rfl : .alreadyPresent = outcome := by simpa [Program.run] using ran
      refine .present permits fun empty => ?_
      simp [documents, empty] at same
    | none =>
      have empty : cluster.records database collection = [] := by simpa [documents] using same
      simp only [Program.run] at ran ⊢
      cases made : cluster.answer session (.ensureCollection database collection) with
      | mk reply middle =>
      simp only [callsOn, handler, made] at ran ⊢
      cases reply with
      | ok value =>
        exact .of_seed permits empty (.of_answer made (.inl rfl)) ran
      | error fault =>
        by_cases already : fault.isAlreadyExists = true
        · simp only [already, ↓reduceIte] at ran ⊢
          exact .of_seed permits empty (.of_answer made (.inr ⟨fault, rfl, already⟩)) ran
        · simp [already, Program.run] at ran

theorem MarkerStep.run {database collection version : String} {stamp : Int64}
    {outcome : MarkerOutcome} (named : collection ≠ "") (versioned : version ≠ "")
    (step : MarkerStep cluster session database collection (.fresh version stamp) outcome after) :
    let ran := (ensureMarker database collection version stamp).run (callsOn handler session)
      cluster
    ran.value = .ok outcome ∧ ran.state = after := by
  rw [ensureMarker_of_named stamp named versioned]
  simp only [Program.run, callsOn, handler]
  cases step with
  | present asked documented =>
    obtain ⟨first, rest, listed⟩ := List.exists_cons_of_ne_nil documented
    simp [answer_of_permits asked, execute, documents, listed, Program.run]
  | @seeded middle _ asked empty ensured permits written =>
    obtain ⟨reply, made, well⟩ := ensured.answer
    obtain ⟨value, inserted⟩ := answer_of_written permits written
    rcases well with rfl | ⟨fault, rfl, already⟩
    · simp [answer_of_permits asked, execute, documents, empty, Program.run, callsOn, handler,
        seedMarker, made, inserted]
    · simp [answer_of_permits asked, execute, documents, empty, Program.run, callsOn, handler,
        seedMarker, made, inserted, already]
  | @pretended middle asked empty ensured pretends =>
    obtain ⟨reply, made, well⟩ := ensured.answer
    obtain ⟨insertFault, injected, repeated⟩ := pretends
    have inserted : after.answer session (.insertMarker database collection (.fresh version stamp))
        = (.error insertFault, after) := answer_of_fault injected
    rcases well with rfl | ⟨fault, rfl, already⟩
    · simp [answer_of_permits asked, execute, documents, empty, Program.run, callsOn, handler,
        seedMarker, made, inserted, repeated]
    · simp [answer_of_permits asked, execute, documents, empty, Program.run, callsOn, handler,
        seedMarker, made, inserted, already, repeated]

theorem PlanStep.of_run {target : String} {plan : MarkerPlan} {stamp : Int64}
    {outcome : MarkerOutcome}
    (ran : ((applyPlan target plan stamp).run (callsOn handler session) cluster).value =
      .ok outcome) :
    PlanStep cluster session target plan stamp outcome
      ((applyPlan target plan stamp).run (callsOn handler session) cluster).state := by
  cases plan with
  | skip => exact ⟨(Except.ok.inj ran).symm, rfl⟩
  | seed collection version =>
    simp only [applyPlan] at ran ⊢
    have named : collection ≠ "" := by
      rintro rfl
      simp [ensureMarker, Program.run] at ran
    have versioned : version ≠ "" := by
      rintro rfl
      simp [ensureMarker, named, Program.run] at ran
    exact ⟨named, versioned, .of_run named versioned ran⟩

theorem PlanStep.run {target : String} {plan : MarkerPlan} {stamp : Int64}
    {outcome : MarkerOutcome}
    (step : PlanStep cluster session target plan stamp outcome after) :
    ((applyPlan target plan stamp).run (callsOn handler session) cluster).value = .ok outcome ∧
      ((applyPlan target plan stamp).run (callsOn handler session) cluster).state = after := by
  cases plan with
  | skip =>
    obtain ⟨rfl, rfl⟩ := step
    exact ⟨rfl, rfl⟩
  | seed collection version =>
    obtain ⟨named, versioned, marked⟩ := step
    exact marked.run named versioned

theorem Permits.kept {later : Cluster} (permits : cluster.Permits session call)
    (same : later.faults = cluster.faults) : later.Permits session call :=
  ⟨same ▸ permits.unfaulted, permits.allowed⟩

theorem Pretends.kept {later : Cluster} {point : FaultPoint}
    (pretends : cluster.Pretends point) (same : later.faults = cluster.faults) :
    later.Pretends point := by
  obtain ⟨fault, injected, already⟩ := pretends
  exact ⟨fault, same ▸ injected, already⟩

theorem CollectionStep.faults {database collection : String}
    (step : CollectionStep cluster session database collection after) :
    after.faults = cluster.faults := by
  cases step with
  | created _ written => exact written.faults
  | there | pretended => rfl

theorem UserStep.faults {account : Account} {outcome : UserOutcome}
    (step : UserStep cluster session account outcome after) : after.faults = cluster.faults := by
  cases step with
  | created _ _ written => exact written.faults
  | present | pretended => rfl

theorem PlanStep.faults {target : String} {plan : MarkerPlan} {stamp : Int64}
    {outcome : MarkerOutcome}
    (step : PlanStep cluster session target plan stamp outcome after) :
    after.faults = cluster.faults := by
  cases plan with
  | skip => exact step.2 ▸ rfl
  | seed collection version =>
    cases step.2.2 with
    | present => rfl
    | seeded _ _ ensured _ written => exact written.faults.trans ensured.faults
    | pretended _ _ ensured _ => exact ensured.faults

theorem UserStep.grows {account : Account} {outcome : UserOutcome}
    (step : UserStep cluster session account outcome after) : Grows cluster after := by
  cases step with
  | created _ _ written => exact written.grows
  | present | pretended => exact .refl cluster

theorem CollectionStep.grows {database collection : String}
    (step : CollectionStep cluster session database collection after) :
    Grows cluster after := by
  cases step with
  | created _ written => exact written.grows
  | there | pretended => exact .refl cluster

theorem PlanStep.grows {target : String} {plan : MarkerPlan} {stamp : Int64}
    {outcome : MarkerOutcome}
    (step : PlanStep cluster session target plan stamp outcome after) : Grows cluster after := by
  cases plan with
  | skip => exact step.2 ▸ .refl cluster
  | seed collection version =>
    cases step.2.2 with
    | present => exact .refl cluster
    | seeded _ _ ensured _ written => exact ensured.grows.trans written.grows
    | pretended _ _ ensured _ => exact ensured.grows

def opened (cluster : Cluster) : Cluster :=
  { cluster with openSessions := cluster.openSessions + 1 }

theorem openSession_ok {scope : String} {credentials : Credentials} :
    cluster.openSession scope credentials = (.ok session, after) ↔
      ∃ user, cluster.users.find? (scope, credentials.username) = some user ∧
        user.password = credentials.password ∧ session = user.grants ∧ after = cluster.opened := by
  unfold openSession
  cases stored : cluster.users.find? (scope, credentials.username) with
  | none => simp
  | some user =>
    by_cases password : user.password = credentials.password
    · simp [password, opened, eq_comm]
    · simp [password]

theorem openSession_error {scope : String} {credentials : Credentials} {fault : Fault}
    (refused : cluster.openSession scope credentials = (.error fault, after)) :
    after = cluster := by
  unfold openSession at refused
  split at refused
  · exact (Prod.mk.inj refused).2.symm
  · split at refused
    · simp at refused
    · exact (Prod.mk.inj refused).2.symm

theorem openSession_refused {scope : String} {credentials : Credentials}
    (unknown : ¬∃ user, cluster.users.find? (scope, credentials.username) = some user ∧
      user.password = credentials.password) :
    cluster.openSession scope credentials =
      (.error (Refusal.wrongCredentials credentials.username scope).fault, cluster) := by
  unfold openSession
  cases stored : cluster.users.find? (scope, credentials.username) with
  | none => rfl
  | some user =>
    have wrong : user.password ≠ credentials.password :=
      fun password => unknown ⟨user, stored, password⟩
    exact if_neg wrong

inductive Provisioned (cluster : Cluster) (request : Request) : Report → Cluster → Prop
  | steps {admin : User} {user : UserOutcome} {marker : MarkerOutcome} {middle last : Cluster}
      (stored : cluster.users.find? (request.scope, request.admin.username) = some admin)
      (password : admin.password = request.admin.password)
      (accepted : request.account.check request.target = .ok ())
      (ensured : UserStep cluster.opened admin.grants request.account user middle)
      (planned : PlanStep middle admin.grants request.target request.plan request.stamp marker
        last) :
      Provisioned cluster request ⟨user, marker⟩ last.close.2

theorem close_grows (cluster : Cluster) : Grows cluster cluster.close.2 :=
  handler_grows cluster (.close [])

theorem close_faults (cluster : Cluster) : cluster.close.2.faults = cluster.faults :=
  handler_faults cluster (.close [])

theorem close_opened (cluster : Cluster) : cluster.opened.close.2 = cluster := by
  simp only [close]
  split <;> rfl

theorem run_of_reads {α : Type} {body : Program Calls α} (reads : body.Asks Call.LooksUp)
    (session : Session) (cluster : Cluster) :
    (body.run (callsOn handler session) cluster).state = cluster := by
  refine (reads.run_keeps (fun _ => rfl) (fun _ _ _ => Eq.trans) ?_ cluster).symm
  exact fun call state look => (unmoved_of_read state session look).symm

theorem withSession_of_reads {α : Type} {body : Program Calls α} (reads : body.Asks Call.LooksUp)
    (operation : Operation) (scope : String) (credentials : Credentials) (cluster : Cluster) :
    ((withSession operation scope credentials body).run handler cluster).state = cluster := by
  cases answered : handler (.openSession scope credentials) cluster with
  | mk reply middle =>
  cases reply with
  | error fault =>
    rw [withSession_run_of_refused _ _ answered]
    exact openSession_error answered
  | ok session =>
    obtain ⟨-, ended⟩ := withSession_run_of_opened operation body answered
    obtain ⟨-, -, -, -, rfl⟩ := openSession_ok.1 answered
    rw [ended, run_of_reads reads]
    exact close_opened cluster

theorem Provisioned.faults {request : Request} {report : Report}
    (done : Provisioned cluster request report after) : after.faults = cluster.faults := by
  cases done with
  | steps _ _ _ ensured planned =>
    exact (close_faults _).trans (planned.faults.trans ensured.faults)

theorem Provisioned.grows {request : Request} {report : Report}
    (done : Provisioned cluster request report after) : Grows cluster after := by
  cases done with
  | @steps admin user marker middle last _ _ _ ensured planned =>
    have opens : Grows cluster cluster.opened := .of_stored_eq rfl rfl
    exact opens.trans (ensured.grows.trans (planned.grows.trans (close_grows last)))

theorem body_run_ok {request : Request} {report : Report}
    (ran : (request.body.run (callsOn handler session) cluster).value = .ok report) :
    request.account.check request.target = .ok () ∧
      ∃ middle, UserStep cluster session request.account report.user middle ∧
        PlanStep middle session request.target request.plan request.stamp report.marker
          (request.body.run (callsOn handler session) cluster).state := by
  unfold Request.body at ran ⊢
  cases checked : request.account.check request.target with
  | error failure => simp [checked, Program.run] at ran
  | ok accepted =>
    simp only [checked, Program.run_bind] at ran ⊢
    cases made : ((ensureUser request.account).run (callsOn handler session) cluster).value with
    | error failure => simp [made, Program.run] at ran
    | ok user =>
      simp only [made, Program.run_bind] at ran ⊢
      have first := UserStep.of_run made
      cases marked : ((applyPlan request.target request.plan request.stamp).run
          (callsOn handler session)
          ((ensureUser request.account).run (callsOn handler session) cluster).state).value with
      | error failure => simp [marked, Program.run] at ran
      | ok marker =>
        simp only [marked, Program.run] at ran ⊢
        obtain rfl := Except.ok.inj ran
        exact ⟨trivial, _, first, .of_run marked⟩

theorem body_run {request : Request} {user : UserOutcome} {marker : MarkerOutcome}
    {middle : Cluster} (accepted : request.account.check request.target = .ok ())
    (ensured : UserStep cluster session request.account user middle)
    (planned : PlanStep middle session request.target request.plan request.stamp marker after) :
    (request.body.run (callsOn handler session) cluster).value = .ok ⟨user, marker⟩ ∧
      (request.body.run (callsOn handler session) cluster).state = after := by
  obtain ⟨made, reached⟩ := ensured.run
  obtain ⟨marked, ended⟩ := planned.run
  simp [Request.body, accepted, Program.run_bind, made, reached, marked, ended, Program.run]

/-- A run alone succeeds exactly by its steps. -/
theorem provision_run_iff {request : Request} {report : Report} :
    (request.provision.run handler cluster).value = .ok report ∧
        (request.provision.run handler cluster).state = after ↔
      Provisioned cluster request report after := by
  constructor
  · rintro ⟨ran, rfl⟩
    cases answered : handler (.openSession request.scope request.admin) cluster with
    | mk reply middle =>
    cases reply with
    | error fault =>
      have refused := Request.provision_run_of_refused answered
      simp [refused.1] at ran
    | ok session =>
      obtain ⟨value, state⟩ := Request.provision_run_of_opened answered
      obtain ⟨admin, stored, password, rfl, rfl⟩ := openSession_ok.1 answered
      obtain ⟨accepted, middle, ensured, planned⟩ := body_run_ok (value.symm.trans ran)
      rw [state]
      exact .steps stored password accepted ensured planned
  · rintro ⟨stored, password, accepted, ensured, planned⟩
    have answered : handler (.openSession request.scope request.admin) cluster =
        (.ok _, cluster.opened) := openSession_ok.2 ⟨_, stored, password, rfl, rfl⟩
    obtain ⟨value, state⟩ := Request.provision_run_of_opened answered
    obtain ⟨ran, reached⟩ := body_run accepted ensured planned
    rw [value, state, ran, reached]
    exact ⟨rfl, rfl⟩

/-- A new cluster, with nobody on it but its administrator. -/
def sample : Cluster :=
  .withRoot "admin" ⟨"root", "secret"⟩

end Cluster

def Request.sample : Request where
  scope := "admin"
  admin := ⟨"root", "secret"⟩
  target := "app"
  account := ⟨"dev", "word", "app", [⟨"readWrite", "app"⟩]⟩
  plan := .seed "description" "1.0"
  stamp := 5

end Provision
