import Mathlib
import Provision.Proofs.Lasting
import Provision.Proofs.Outcome
import Provision.Proofs.Survey
/-!
What a run seeds, inspections report.

A run that succeeds leaves a document in the marker's collection, and its administrator may read it.
Documents keep their order. So as long as no fault is injected every later inspection by that
administrator reports the collection with the same first document, whatever others write.
-/

namespace Provision

def Request.Finds {σ : Type} (request : Request) (collection : String) (marker : Marker)
    (handler : Handler (Store Cluster.Session) σ) (state : σ) : Prop :=
  ∃ report, ((inspect request.scope request.admin request.target collection).run handler
      state).value = .ok report ∧ collection ∈ report.collections ∧ report.marker = some marker

namespace Cluster

def Calm (history : List Action) : Prop :=
  ∀ point fault, .inject point fault ∉ history

/-- The administrator of a request may read its target, and a collection there has a document. -/
structure Tells (cluster : Cluster) (request : Request) (collection : String) (marker : Marker) :
    Prop where
  reader : ∃ admin, cluster.LogsIn request admin ∧
    Session.holds admin.grants .read request.target = true
  first : (cluster.documents request.target collection).head? = some marker

/-- Inspections report the marker from now on, also while others are at work, until a fault is
injected. -/
def TellsOn (cluster : Cluster) (request : Request) (collection : String) (marker : Marker) :
    Prop :=
  ∀ history, Calm history →
    let later := cluster.after history
    request.Finds collection marker handler later ∧
      ∀ turns, (∀ turn ∈ turns, Calm turn) →
        request.Finds collection marker Busy.handler ⟨later, turns⟩

variable {cluster before after : Cluster} {session : Session} {request : Request}
variable {database collection version : String} {marker : Marker} {report : Report}

theorem act_faultless {action : Action} (faultless : cluster.Faultless)
    (calm : ∀ point fault, action ≠ .inject point fault) : (cluster.act action).Faultless := by
  cases action with
  | ask op => exact (handler_faults cluster op).trans faultless
  | inject point fault => exact absurd rfl (calm point fault)
  | clearFaults => rfl
  | insertRaw => exact faultless

theorem after_faultless {history : List Action} (faultless : cluster.Faultless)
    (calm : Calm history) : (cluster.after history).Faultless := by
  induction history generalizing cluster with
  | nil => exact faultless
  | cons action rest ih =>
    refine ih (act_faultless faultless ?_) fun point fault later => calm point fault (.tail _ later)
    rintro point fault rfl
    exact calm point fault List.mem_cons_self

theorem Grows.first (grows : Grows before after)
    (first : (before.documents database collection).head? = some marker) :
    (after.documents database collection).head? = some marker := by
  obtain ⟨added, records⟩ := grows.records database collection
  simp only [documents, records, List.map_append, List.head?_append]
  exact Option.or_eq_some_iff.2 (.inl first)

theorem LogsIn.kept {admin : User} (login : before.LogsIn request admin)
    (grows : Grows before after) : after.LogsIn request admin :=
  ⟨grows.users _ _ login.stored, login.password⟩

theorem Tells.kept (tells : before.Tells request collection marker) (grows : Grows before after) :
    after.Tells request collection marker := by
  obtain ⟨admin, login, reads⟩ := tells.reader
  exact ⟨⟨admin, login.kept grows, reads⟩, grows.first tells.first⟩

theorem exists_first (documented : cluster.records database collection ≠ []) :
    ∃ marker, (cluster.documents database collection).head? = some marker := by
  obtain ⟨record, rest, records⟩ := List.exists_cons_of_ne_nil documented
  exact ⟨record.marker, by simp [documents, records]⟩

/-! ### What a reply tells of the documents -/

theorem documented_of_found
    (answered : cluster.answer session (.findMarker database collection) =
      (.ok (some marker), after)) : after.records database collection ≠ [] := by
  obtain ⟨-, executed⟩ := answer_ok answered
  obtain ⟨found, rfl⟩ : (cluster.documents database collection).head? = some marker ∧
      cluster = after := ⟨Except.ok.inj (Prod.mk.inj executed).1, (Prod.mk.inj executed).2⟩
  intro empty
  simp [documents, empty] at found

theorem documented_of_inserted
    (answered : cluster.answer session (.insertMarker database collection marker) =
      (.ok (), after)) : after.records database collection ≠ [] := by
  obtain ⟨-, written⟩ := answer_written rfl answered
  cases written with
  | marker absent => simp [records_append]

/-- Without faults a second insertion is refused only where there has been a first. -/
theorem documented_of_preceded {fault : Fault} (faultless : cluster.Faultless)
    (already : fault.isAlreadyExists = true)
    (answered : cluster.answer session (.insertMarker database collection marker) =
      (.error fault, after)) : after.records database collection ≠ [] := by
  obtain ⟨rfl, pretends | ⟨-, item, adds, there⟩⟩ := answer_alreadyExists answered already
  · exact absurd pretends (faultless.not_pretends _)
  · obtain rfl := Option.some.inj adds
    intro empty
    rw [holds_marker_of_empty empty] at there
    cases there

namespace Busy

structure Calm (busy : Busy) : Prop where
  faultless : busy.cluster.Faultless
  turns : ∀ turn ∈ busy.turns, Cluster.Calm turn

variable {busy : Busy} {α : Type} {program : Program (Store Session) α}

theorem Calm.after_turn (calm : busy.Calm) :
    (busy.cluster.after (busy.turns.headD [])).Faultless := by
  refine after_faultless calm.faultless ?_
  cases others : busy.turns with
  | nil => exact fun _ _ => List.not_mem_nil
  | cons turn rest => exact calm.turns turn (others ▸ List.mem_cons_self)

theorem Calm.handler (op : StoreOp Session) (calm : busy.Calm) : (handler op busy).2.Calm where
  faultless := (handler_faults _ op).trans calm.after_turn
  turns := fun turn later => calm.turns turn (List.mem_of_mem_tail later)

theorem Calm.run (calm : busy.Calm) (program : Program (Store Session) α) :
    (program.run Busy.handler busy).state.Calm := by
  induction program generalizing busy with
  | done value => exact calm
  | emit event rest ih => exact ih calm
  | perform op next ih => exact ih _ (calm.handler op)

theorem handler_grows (op : StoreOp Session) (busy : Busy) :
    Grows busy.cluster (handler op busy).2.cluster :=
  (after_grows busy.cluster _).trans (Cluster.handler_grows _ op)

/-- What is exchanged in a calm run was answered by a cluster without faults, which had grown since
the start and then grew on. -/
theorem Calm.answered (calm : busy.Calm) {op : StoreOp Session} {reply : op.Reply}
    (member : ⟨op, reply⟩ ∈ program.trace Busy.handler busy) :
    ∃ asked next : Cluster, asked.Faultless ∧ Grows busy.cluster asked ∧
      Cluster.handler op asked = (reply, next) ∧
      Grows next (program.run Busy.handler busy).state.cluster := by
  have step : ∀ op (state : Busy), state.Calm ∧ Grows busy.cluster state.cluster →
      (Busy.handler op state).2.Calm ∧ Grows busy.cluster (Busy.handler op state).2.cluster :=
    fun op state ⟨calm, grows⟩ => ⟨calm.handler op, grows.trans (handler_grows op state)⟩
  obtain ⟨before, ⟨still, grown⟩, next, answered, grows⟩ :=
    answered_of_mem_trace step ⟨calm, .refl busy.cluster⟩ member
  exact ⟨_, next, still.after_turn, grown.trans (after_grows _ _), answered, grows⟩

end Busy

/-! ### What a run leaves -/

theorem documented_of_ended {calls : List (Exchange Calls)} {outcome : MarkerOutcome}
    (plan : request.plan = .seed collection version) (ended : MarkerEnded calls request outcome)
    (answers : ∀ call reply, ⟨call, reply⟩ ∈ calls → ∃ asked next : Cluster,
      asked.Faultless ∧ asked.answer session call = (reply, next) ∧ Grows next after) :
    after.records request.target collection ≠ [] := by
  rcases ended.cases_of_seed plan with inserted | ⟨marker, found⟩ | ⟨fault, already, preceded⟩
  · obtain ⟨asked, next, -, answered, grows⟩ := answers _ _ inserted
    exact grows.records_ne_nil (documented_of_inserted answered)
  · obtain ⟨asked, next, -, answered, grows⟩ := answers _ _ found
    exact grows.records_ne_nil (documented_of_found answered)
  · obtain ⟨asked, next, faultless, answered, grows⟩ := answers _ _ preceded
    exact grows.records_ne_nil (documented_of_preceded faultless already answered)

theorem Busy.Calm.tells_of_ran {busy : Busy} (calm : busy.Calm)
    (plan : request.plan = .seed collection version)
    (ran : (request.provision.run Busy.handler busy).value = .ok report) :
    request.account.check request.target = .ok () ∧ ∃ marker,
      (request.provision.run Busy.handler busy).state.cluster.Tells request collection marker := by
  obtain ⟨session, calls, opened, exchanged, dialogue⟩ := provision_dialogue_of_ok ran
  obtain ⟨-, ended⟩ := (dialogue.inStages.success report).1 rfl
  have answers : ∀ call reply, ⟨call, reply⟩ ∈ calls → ∃ asked next : Cluster,
      asked.Faultless ∧ asked.answer session call = (reply, next) ∧
      Grows next (request.provision.run Busy.handler busy).state.cluster := by
    intro call reply member
    obtain ⟨asked, next, faultless, -, answered, grows⟩ :=
      calm.answered (exchanged _ (Program.mem_exchangesOn session member))
    exact ⟨asked, next, faultless, answered, grows⟩
  obtain ⟨found, looked⟩ := dialogue.inOrder.looked plan ended
  obtain ⟨-, accepted⟩ := dialogue.inStages.begun.1 (List.ne_nil_of_mem looked)
  obtain ⟨asked, next, -, answered, -⟩ := answers _ _ looked
  have reads : session.holds .read request.target = true := (answer_ok answered).1.holds rfl
  obtain ⟨asked, next, -, -, answered, grows⟩ := calm.answered opened
  obtain ⟨admin, stored, password, rfl, rfl⟩ := openSession_ok.1 answered
  obtain ⟨marker, first⟩ := exists_first (documented_of_ended plan ended answers)
  exact ⟨accepted, marker, ⟨admin, ⟨grows.users _ _ stored, password⟩, reads⟩, first⟩

/-! ### What an inspection finds -/

theorem answer_of_looksUp {call : Call} (look : call.LooksUp)
    (permits : cluster.Permits session call) :
    ∃ value, cluster.answer session call = (.ok value, cluster) := by
  rw [answer_of_permits permits]
  cases call with
  | userExists | findMarker | serverVersion | listCollections => exact ⟨_, rfl⟩
  | createUser | ensureCollection | insertMarker => cases look

theorem permits_of_reads {call : Call} (faultless : cluster.Faultless)
    (reads : session.holds .read database = true)
    (asked : call ∈ [.serverVersion, .listCollections database, .findMarker database collection]) :
    cluster.Permits session call := by
  simp only [List.mem_cons, List.not_mem_nil, or_false] at asked
  rcases asked with rfl | rfl | rfl
  · exact ⟨by rw [faultless], rfl⟩
  · exact .of_holds faultless rfl reads
  · exact .of_holds faultless rfl reads

theorem Tells.listed (tells : cluster.Tells request collection marker) :
    collection ∈ cluster.collections.names request.target := by
  apply Table.mem_names_iff.2
  have first := tells.first
  cases there : cluster.collections.find? (request.target, collection) with
  | none => simp [documents, records, there] at first
  | some records => simp [Table.contains, there]

theorem Tells.found {found : Option Marker} (tells : cluster.Tells request collection marker)
    (answered : cluster.answer session (.findMarker request.target collection) =
      (.ok found, after)) : found = some marker := by
  obtain ⟨-, executed⟩ := answer_ok answered
  have same : (cluster.documents request.target collection).head? = found :=
    Except.ok.inj (Prod.mk.inj executed).1
  exact same.symm.trans tells.first

theorem report_of_tells {calls : List (Exchange Calls)} {result : Except Failure DatabaseReport}
    (surveyed : SurveyDialogue request.target collection calls result)
    (reads : session.holds .read request.target = true)
    (answers : ∀ call reply, ⟨call, reply⟩ ∈ calls → ∃ asked next : Cluster,
      asked.Faultless ∧ asked.Tells request collection marker ∧
        asked.answer session call = (reply, next)) :
    ∃ report, result = .ok report ∧ collection ∈ report.collections ∧
      report.marker = some marker := by
  have unrefused : ∀ (call : Call) (fault : Fault), ⟨call, .error fault⟩ ∉ calls := by
    intro call fault member
    obtain ⟨asked, next, faultless, -, answered⟩ := answers _ _ member
    have among := surveyed.ops_prefix.subset (List.mem_map_of_mem member)
    obtain ⟨value, other⟩ :=
      answer_of_looksUp (surveyed.looksUp member) (permits_of_reads faultless reads among)
    cases (Prod.mk.inj (answered.symm.trans other)).1
  cases surveyed with
  | unversioned fault => exact absurd (by simp) (unrefused .serverVersion fault)
  | unlisted version fault =>
    exact absurd (by simp) (unrefused (.listCollections request.target) fault)
  | unread version names named fault =>
    exact absurd (by simp) (unrefused (.findMarker request.target collection) fault)
  | unnamed version names absent =>
    obtain ⟨asked, next, -, tells, answered⟩ :=
      answers (.listCollections request.target) (.ok names) (by simp)
    obtain ⟨-, executed⟩ := answer_ok answered
    have same : asked.collections.names request.target = names :=
      Except.ok.inj (Prod.mk.inj executed).1
    exact absurd (same ▸ tells.listed) absent
  | read version names named found =>
    obtain ⟨asked, next, -, tells, answered⟩ :=
      answers (.findMarker request.target collection) (.ok found) (by simp)
    exact ⟨_, rfl, (Text.sorted_perm names).mem_iff.2 named, tells.found answered⟩

theorem Busy.Calm.finds {busy : Busy} (calm : busy.Calm) (named : request.target ≠ "")
    (tells : busy.cluster.Tells request collection marker) :
    request.Finds collection marker Busy.handler busy := by
  have dialogue := inspect_dialogue Busy.handler busy request.scope request.admin request.target
    collection
  have answers : ∀ (op : StoreOp Session) (reply : op.Reply), ⟨op, reply⟩ ∈
      (inspect request.scope request.admin request.target collection).trace Busy.handler busy →
        ∃ asked next : Cluster, asked.Faultless ∧ asked.Tells request collection marker ∧
          Cluster.handler op asked = (reply, next) := by
    intro op reply member
    obtain ⟨asked, next, faultless, grown, answered, -⟩ := calm.answered member
    exact ⟨asked, next, faultless, tells.kept grown, answered⟩
  unfold Request.Finds
  generalize ((inspect request.scope request.admin request.target collection).run Busy.handler
    busy).value = result at dialogue ⊢
  generalize (inspect request.scope request.admin request.target collection).trace Busy.handler
    busy = exchanges at dialogue answers
  cases dialogue with
  | nameless empty => exact absurd empty named
  | refused _ fault =>
    obtain ⟨asked, next, -, ⟨⟨admin, login, -⟩, -⟩, answered⟩ := answers _ _ List.mem_cons_self
    cases (Prod.mk.inj (answered.symm.trans (openSession_of_logsIn login))).1
  | held _ session closed surveyed =>
    obtain ⟨asked, next, -, ⟨⟨admin, login, reads⟩, -⟩, answered⟩ :=
      answers (.openSession request.scope request.admin) (.ok session) List.mem_cons_self
    have same : session = admin.grants :=
      Except.ok.inj (Prod.mk.inj (answered.symm.trans (openSession_of_logsIn login))).1
    refine report_of_tells surveyed (same ▸ reads) fun call reply member => ?_
    exact answers (.call session call) reply
      (.tail _ (List.mem_append_left _ (Program.mem_exchangesOn session member)))

/-- Nothing that the others do without injecting faults hides a marker again. -/
theorem Tells.tellsOn (tells : cluster.Tells request collection marker)
    (faultless : cluster.Faultless) (named : request.target ≠ "") :
    cluster.TellsOn request collection marker := by
  intro history calm later
  have kept : later.Tells request collection marker := tells.kept (after_grows cluster history)
  have finds : ∀ turns, (∀ turn ∈ turns, Calm turn) →
      request.Finds collection marker Busy.handler ⟨later, turns⟩ := by
    intro turns calmly
    have busy : Busy.Calm ⟨later, turns⟩ := ⟨after_faultless faultless calm, calmly⟩
    exact busy.finds named kept
  refine ⟨?_, finds⟩
  have idle := finds [] (List.forall_mem_nil _)
  unfold Request.Finds at idle
  rw [Busy.run_idle] at idle
  exact idle

theorem Provisioned.first_of_seeded (faultless : cluster.Faultless)
    (done : Provisioned cluster request report after)
    (plan : request.plan = .seed collection version) (seeded : report.marker = .seeded) :
    (after.documents request.target collection).head? = some (.fresh version request.stamp) := by
  obtain ⟨told, -, collections⟩ := done.effect faultless
  have empty : cluster.records request.target collection = [] := by
    rw [told] at seeded
    simp only [reportOf, plan] at seeded
    by_contra full
    simp [full] at seeded
  have inserted : after.collections = cluster.collections.insert (request.target, collection)
      [⟨Marker.identifier, .fresh version request.stamp⟩] := by
    simpa [collectionsAfter, plan, empty] using collections
  simp [documents, records_of_insert inserted]

/-- After a run that succeeded with a marker planned, every inspection by its administrator reports
the marker's collection and a marker, and always the same one, at any later time and amid others, as
long as no fault is injected. The run may itself take place amid others. Where it took place alone
and reported its marker seeded, the marker is the one that it was to seed. -/
theorem seeded_marker_stays_reported {cluster : Cluster} (faultless : cluster.Faultless)
    {request : Request} {collection version : String}
    (plan : request.plan = .seed collection version) (report : Report) :
    (∀ turns, (∀ turn ∈ turns, Calm turn) →
      let ran := request.provision.run Busy.handler ⟨cluster, turns⟩
      ran.value = .ok report →
        ∃ marker, ran.state.cluster.TellsOn request collection marker) ∧
    let ran := request.provision.run handler cluster
    ran.value = .ok report → ∃ marker, ran.state.TellsOn request collection marker ∧
      (report.marker = .seeded → marker = ⟨version, request.stamp, false⟩) := by
  have amid : ∀ turns, (∀ turn ∈ turns, Calm turn) →
      let ran := request.provision.run Busy.handler ⟨cluster, turns⟩
      ran.value = .ok report → ∃ marker, ran.state.cluster.Tells request collection marker ∧
        ran.state.cluster.TellsOn request collection marker := by
    intro turns calmly ran succeeded
    have calm : Busy.Calm ⟨cluster, turns⟩ := ⟨faultless, calmly⟩
    obtain ⟨accepted, marker, tells⟩ := calm.tells_of_ran plan succeeded
    have still : ran.state.cluster.Faultless := (calm.run request.provision).faultless
    exact ⟨marker, tells, tells.tellsOn still (Account.target_ne_of_check accepted)⟩
  constructor
  · intro turns calmly ran succeeded
    obtain ⟨marker, -, lasts⟩ := amid turns calmly succeeded
    exact ⟨marker, lasts⟩
  · intro ran succeeded
    have idle := amid [] (List.forall_mem_nil _)
    rw [Busy.run_idle] at idle
    obtain ⟨marker, tells, lasts⟩ := idle succeeded
    refine ⟨marker, lasts, fun seeded => ?_⟩
    have done : Provisioned cluster request report ran.state := provision_run_iff.1 ⟨succeeded, rfl⟩
    exact Option.some.inj (tells.first.symm.trans (done.first_of_seeded faultless plan seeded))

/-- Somebody puts another document into the sample run's collection, and makes a second one. -/
theorem seeded_marker_outlasts_document :
    let ran := Request.sample.provision.run handler sample
    let history : List Action := [.insertRaw "app" "description" ⟨"by-hand", .fresh "0" 1⟩,
      .ask (.call [⟨"root", "admin"⟩] (.ensureCollection "app" "backup"))]
    ran.value = .ok ⟨.created, .seeded⟩ ∧
      Request.sample.Finds "description" ⟨"1.0", 5, false⟩ handler (ran.state.after history) := by
  intro ran history
  have succeeded : ran.value = .ok ⟨.created, .seeded⟩ := by cbv
  have calm : Calm history := by simp [Calm, history]
  obtain ⟨marker, lasts, seeded⟩ := (seeded_marker_stays_reported (show sample.Faultless from rfl)
    (show Request.sample.plan = .seed "description" "1.0" from rfl) ⟨.created, .seeded⟩).2 succeeded
  obtain rfl := seeded rfl
  exact ⟨succeeded, (lasts history calm).1⟩

end Cluster

end Provision
