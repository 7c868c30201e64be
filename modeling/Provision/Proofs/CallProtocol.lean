import Provision.Proofs.Replies
/-!
Which calls a provisioning run makes, and which stage its failure names.

Nothing is assumed of the datastore: the clauses hold for every kind of session and every reply.
-/

namespace Provision

/-- Which calls are made, and in which order. -/
structure InOrder (request : Request) (calls : List (Exchange Calls)) : Prop where
  script : ∃ found, calls.map Exchange.op <+: request.userScript found ++ request.planScript
  once : (calls.map Exchange.op).Nodup
  creating : Asked calls (.createUser request.account) ↔
    Answered calls (.userExists request.account.database request.account.username) false
  looking : ∀ database collection, Asked calls (.findMarker database collection) ↔
    (∃ outcome, UserEnded calls request.account outcome) ∧ database = request.target ∧
      ∃ version, request.plan = .seed collection version ∧ collection ≠ "" ∧ version ≠ ""
  ensuring : ∀ database collection, Asked calls (.ensureCollection database collection) ↔
    Answered calls (.findMarker database collection) none
  inserting : ∀ database collection,
    (∃ marker, Asked calls (.insertMarker database collection marker)) ↔
      Answered calls (.ensureCollection database collection) () ∨
        Preceded calls (.ensureCollection database collection)
  /-- A fault that strikes comes with the last call. -/
  stops : ∀ exchange ∈ calls.dropLast, exchange.strikes = none

/-- Which stage a run ends at. -/
structure InStages {S : Type} (request : Request) (opening : Except Fault S)
    (calls : List (Exchange Calls)) (result : Except Failure Report) : Prop where
  begun : calls ≠ [] ↔
    (∃ session, opening = .ok session) ∧ request.account.check request.target = .ok ()
  /-- A fault that strikes is reported, with its message, by the stage it struck. -/
  struck : ∀ exchange ∈ calls, ∀ fault, exchange.strikes = some fault →
    result = .error (request.failureAt fault exchange.op)
  authentication : (∃ scope message, result = .error (.authentication scope message)) ↔
    ∃ fault, opening = .error fault ∧
      (fault.kind = .authenticationFailed ∨ fault.kind = .unauthorized)
  datastore : (∃ operation message, result = .error (.datastore operation message)) ↔
    ∃ fault, opening = .error fault ∧
      ¬(fault.kind = .authenticationFailed ∨ fault.kind = .unauthorized)
  input : (∃ message, result = .error (.input message)) ↔
    (∃ session, opening = .ok session) ∧
      ∃ message, request.account.check request.target = .error (.input message)
  grant : (∃ username database message, result = .error (.grant username database message)) ↔
    ((∃ session, opening = .ok session) ∧ ∃ username database message,
      request.account.check request.target = .error (.grant username database message)) ∨
    ∃ exchange ∈ calls, UserCall request.account exchange.op ∧ exchange.strikes ≠ none
  marker : (∃ database collection message,
      result = .error (.marker database collection message)) ↔
    (∃ outcome, UserEnded calls request.account outcome) ∧
      ∃ collection version, request.plan = .seed collection version ∧
        (collection = "" ∨ version = "" ∨ ∃ exchange ∈ calls,
          MarkerCall request.target collection (.fresh version request.stamp) exchange.op ∧
            exchange.strikes ≠ none)
  verification : ¬∃ username database message,
    result = .error (.verification username database message)
  success : ∀ report, result = .ok report ↔
    UserEnded calls request.account report.user ∧ MarkerEnded calls request report.marker

section

variable {request : Request} {account : Account} {calls : List (Exchange Calls)}

theorem Request.nodup_script (request : Request) (found : Bool) :
    (request.userScript found ++ request.planScript).Nodup := by
  unfold Request.userScript Request.planScript
  cases request.plan <;> cases found <;> simp

theorem once_of_script {found : Bool}
    (script : calls.map Exchange.op <+: request.userScript found ++ request.planScript) :
    (calls.map Exchange.op).Nodup :=
  script.sublist.nodup (request.nodup_script found)

theorem not_userEnded_nil (outcome : UserOutcome) : ¬UserEnded [] account outcome := by
  cases outcome <;> simp [UserEnded, Answered, Preceded]

theorem nil_inOrder (request : Request) : InOrder request [] where
  script := ⟨true, List.nil_prefix⟩
  once := List.nodup_nil
  creating := by simp [Asked, Answered]
  looking := by
    intro database collection
    constructor
    · intro asked
      cases asked
    · rintro ⟨⟨outcome, ended⟩, -⟩
      exact absurd ended (not_userEnded_nil outcome)
  ensuring := by simp [Asked, Answered]
  inserting := by simp [Asked, Answered, Preceded]
  stops := by simp

theorem asked_iff {call : Call} : Asked calls call ↔ ∃ reply, ⟨call, reply⟩ ∈ calls := by
  constructor
  · intro asked
    obtain ⟨⟨call, reply⟩, member, rfl⟩ := List.mem_map.1 asked
    exact ⟨reply, member⟩
  · rintro ⟨reply, member⟩
    exact .of_mem member

theorem UserDialogue.call_of_asked {result : Except Failure UserOutcome}
    (dialogue : UserDialogue account calls result) {call : Call} (asked : Asked calls call) :
    UserCall account call := by
  obtain ⟨exchange, member, rfl⟩ := List.mem_map.1 asked
  exact dialogue.call_of_mem member

theorem UserDialogue.inOrder {failure : Failure}
    (dialogue : UserDialogue request.account calls (.error failure)) : InOrder request calls := by
  obtain ⟨found, script, -⟩ := dialogue.ops_prefix
  have whole := script.trans (List.prefix_append _ request.planScript)
  constructor
  case script => exact ⟨found, whole⟩
  case once => exact once_of_script whole
  case creating => exact dialogue.creating
  case looking =>
    intro database collection
    constructor
    · intro asked
      cases dialogue.call_of_asked asked
    · rintro ⟨⟨outcome, ended⟩, -⟩
      cases (dialogue.ended_iff outcome).1 ended
  case ensuring =>
    intro database collection
    constructor
    · intro asked
      cases dialogue.call_of_asked asked
    · intro answered
      cases dialogue.call_of_asked answered.asked
  case inserting =>
    intro database collection
    constructor
    · rintro ⟨marker, asked⟩
      cases dialogue.call_of_asked asked
    · intro ensured
      cases dialogue.call_of_asked (ensured.elim Answered.asked Preceded.asked)
  case stops => exact dialogue.stops

/-- Two lists have the same exchanges about users, or the same about anything else. -/
def Agree (user : Bool) (whole part : List (Exchange Calls)) : Prop :=
  ∀ exchange : Exchange Calls, exchange.op.concernsUser = user →
    (exchange ∈ whole ↔ exchange ∈ part)

namespace Agree

variable {user : Bool} {whole part : List (Exchange Calls)} {call : Call}

theorem asked (agree : Agree user whole part) (about : call.concernsUser = user) :
    Asked whole call ↔ Asked part call := by
  rw [asked_iff, asked_iff]
  exact exists_congr fun reply => agree ⟨call, reply⟩ about

theorem answered (agree : Agree user whole part) (about : call.concernsUser = user)
    {answer : call.Answer} : Answered whole call answer ↔ Answered part call answer :=
  agree ⟨call, .ok answer⟩ about

theorem preceded (agree : Agree user whole part) (about : call.concernsUser = user) :
    Preceded whole call ↔ Preceded part call :=
  exists_congr fun fault => and_congr_right fun _ => agree ⟨call, .error fault⟩ about

theorem userEnded (agree : Agree true whole part) (outcome : UserOutcome) :
    UserEnded whole account outcome ↔ UserEnded part account outcome := by
  cases outcome with
  | created => exact agree.answered rfl
  | alreadyPresent => exact or_congr (agree.answered rfl) (agree.preceded rfl)

theorem markerEnded (agree : Agree false whole part) (outcome : MarkerOutcome) :
    MarkerEnded whole request outcome ↔ MarkerEnded part request outcome := by
  cases outcome with
  | skipped => exact Iff.rfl
  | seeded =>
    refine exists_congr fun collection => exists_congr fun version => and_congr_right fun _ => ?_
    exact agree.answered rfl
  | alreadyPresent =>
    refine exists_congr fun collection => exists_congr fun version => and_congr_right fun _ => ?_
    exact or_congr (exists_congr fun marker => agree.answered rfl) (agree.preceded rfl)

end Agree

section

variable {first last : List (Exchange Calls)} {outcome : UserOutcome}
variable {userResult : Except Failure UserOutcome} {result : Except Failure MarkerOutcome}

theorem PlanDialogue.concernsUser (plan : PlanDialogue request last result)
    {exchange : Exchange Calls} (member : exchange ∈ last) : exchange.op.concernsUser = false := by
  obtain ⟨collection, version, -, marker⟩ := plan.call_of_asked (List.mem_map_of_mem member)
  cases exchange with
  | mk call reply => cases marker <;> rfl

theorem UserDialogue.concernsUser (user : UserDialogue account first userResult)
    {exchange : Exchange Calls} (member : exchange ∈ first) : exchange.op.concernsUser = true := by
  cases exchange with
  | mk call reply => cases user.call_of_mem member <;> rfl

theorem PlanDialogue.agree (plan : PlanDialogue request last result) :
    Agree true (first ++ last) first := by
  intro exchange about
  rw [List.mem_append]
  refine or_iff_left fun member => ?_
  rw [plan.concernsUser member] at about
  cases about

theorem UserDialogue.agree (user : UserDialogue account first userResult) :
    Agree false (first ++ last) last := by
  intro exchange about
  rw [List.mem_append]
  refine or_iff_right fun member => ?_
  rw [user.concernsUser member] at about
  cases about

theorem UserDialogue.unstruck (user : UserDialogue account first (.ok outcome))
    {exchange : Exchange Calls} (member : exchange ∈ first) : exchange.strikes = none := by
  cases strikes : exchange.strikes with
  | none => rfl
  | some fault => cases user.struck member strikes

theorem inOrder_append (user : UserDialogue request.account first (.ok outcome))
    (plan : PlanDialogue request last result) : InOrder request (first ++ last) := by
  have users : Agree true (first ++ last) first := plan.agree
  have markers : Agree false (first ++ last) last := user.agree
  obtain ⟨found, -, told⟩ := user.ops_prefix
  have whole : (first ++ last).map Exchange.op <+:
      request.userScript found ++ request.planScript := by
    rw [List.map_append, told outcome rfl]
    exact (List.prefix_append_right_inj _).2 plan.ops_prefix
  constructor
  case script => exact ⟨found, whole⟩
  case once => exact once_of_script whole
  case creating =>
    rw [users.asked rfl, users.answered rfl]
    exact user.creating
  case looking =>
    intro database collection
    have ended : ∃ outcome, UserEnded (first ++ last) request.account outcome :=
      ⟨outcome, (users.userEnded outcome).2 ((user.ended_iff outcome).2 rfl)⟩
    rw [markers.asked rfl, plan.looking]
    exact (and_iff_right ended).symm
  case ensuring =>
    intro database collection
    rw [markers.asked rfl, markers.answered rfl]
    exact plan.ensuring database collection
  case inserting =>
    intro database collection
    rw [markers.answered rfl, markers.preceded rfl]
    rw [← plan.inserting database collection]
    exact exists_congr fun marker => markers.asked rfl
  case stops =>
    intro exchange member
    cases last with
    | nil =>
      rw [List.append_nil] at member
      exact user.stops exchange member
    | cons head rest =>
      rw [List.dropLast_append_of_ne_nil (List.cons_ne_nil head rest)] at member
      rcases List.mem_append.1 member with before | after
      · exact user.unstruck before
      · exact plan.stops exchange after

theorem PlanDialogue.struck_append (plan : PlanDialogue request last result)
    (user : UserDialogue request.account first (.ok outcome)) :
    ∀ exchange ∈ first ++ last, ∀ fault, exchange.strikes = some fault →
      result = .error (request.failureAt fault exchange.op) := by
  intro exchange member fault strikes
  rcases List.mem_append.1 member with before | after
  · rw [user.unstruck before] at strikes
    cases strikes
  · exact plan.struck after strikes

theorem UserDialogue.unstruck_append (user : UserDialogue request.account first (.ok outcome))
    (plan : PlanDialogue request last result) :
    ¬∃ exchange ∈ first ++ last,
      UserCall request.account exchange.op ∧ exchange.strikes ≠ none := by
  have users : Agree true (first ++ last) first := plan.agree
  rintro ⟨⟨call, reply⟩, member, about, strikes⟩
  have concerns : call.concernsUser = true := by cases about <;> rfl
  exact strikes (user.unstruck ((users _ concerns).1 member))

theorem UserDialogue.ended_append (user : UserDialogue request.account first (.ok outcome))
    (plan : PlanDialogue request last result) (other : UserOutcome) :
    UserEnded (first ++ last) request.account other ↔ other = outcome := by
  have users : Agree true (first ++ last) first := plan.agree
  rw [users.userEnded, user.ended_iff]
  simp [eq_comm]

theorem PlanDialogue.failed_iff_append (plan : PlanDialogue request last result)
    (user : UserDialogue request.account first (.ok outcome)) :
    (∃ failure, result = .error failure) ↔
      ∃ collection version, request.plan = .seed collection version ∧
        (collection = "" ∨ version = "" ∨ ∃ exchange ∈ first ++ last,
          MarkerCall request.target collection (.fresh version request.stamp) exchange.op ∧
            exchange.strikes ≠ none) := by
  have markers : Agree false (first ++ last) last := user.agree
  rw [plan.failed_iff]
  refine exists_congr fun collection => exists_congr fun version => and_congr_right fun _ => ?_
  refine or_congr_right (or_congr_right (exists_congr ?_))
  rintro ⟨call, reply⟩
  refine and_congr_left fun ⟨about, _⟩ => (markers _ ?_).symm
  cases about <;> rfl

end

theorem Account.failure_of_check {target : String} {failure : Failure}
    (rejected : account.check target = .error failure) :
    (∃ message, failure = .input message) ∨
      ∃ username database message, failure = .grant username database message := by
  unfold Account.check at rejected
  split at rejected
  case h_1 => cases rejected
  case h_2 reason _ =>
    cases rejected
    cases reason with
    | emptyTarget | otherTarget => exact .inl ⟨_, rfl⟩
    | emptyUsername | noGrants | malformedGrant => exact .inr ⟨_, _, _, rfl⟩

theorem adminRefused_cases (scope : String) (fault : Fault) :
    (fault.kind = .authenticationFailed ∨ fault.kind = .unauthorized) ∧
      adminRefused scope fault = .authentication scope fault.detail ∨
    ¬(fault.kind = .authenticationFailed ∨ fault.kind = .unauthorized) ∧
      adminRefused scope fault = .ofFault "open admin session" fault := by
  unfold adminRefused
  cases kind : fault.kind <;> simp

section

variable {S : Type}

theorem unopened_inStages (fault : Fault) :
    InStages (S := S) request (.error fault) [] (.error (adminRefused request.scope fault)) := by
  have nobody : ¬∃ outcome, UserEnded [] request.account outcome :=
    fun ⟨outcome, ended⟩ => not_userEnded_nil outcome ended
  rcases adminRefused_cases request.scope fault with ⟨refused, same⟩ | ⟨struck, same⟩
  · rw [same]
    constructor
    case authentication => exact iff_of_true ⟨_, _, rfl⟩ ⟨fault, rfl, refused⟩
    case datastore =>
      constructor
      · rintro ⟨operation, message, other⟩
        cases other
      · rintro ⟨other, opened, struck⟩
        cases opened
        exact absurd refused struck
    case marker => simp [nobody]
    case success => simp [not_userEnded_nil]
    all_goals simp
  · rw [same]
    constructor
    case authentication => simp [Failure.ofFault, struck]
    case datastore => exact iff_of_true ⟨_, _, rfl⟩ ⟨fault, rfl, struck⟩
    case marker => simp [Failure.ofFault, nobody]
    case success => simp [not_userEnded_nil]
    all_goals simp [Failure.ofFault]

theorem rejected_inStages (session : S) {failure : Failure}
    (rejected : request.account.check request.target = .error failure) :
    InStages request (.ok session) [] (.error failure) := by
  have nobody : ¬∃ outcome, UserEnded [] request.account outcome :=
    fun ⟨outcome, ended⟩ => not_userEnded_nil outcome ended
  rcases Account.failure_of_check rejected with ⟨message, rfl⟩ | ⟨username, database, message, rfl⟩
  · constructor
    case marker => simp [nobody]
    case success => simp [not_userEnded_nil]
    all_goals simp [rejected]
  · constructor
    case marker => simp [nobody]
    case success => simp [not_userEnded_nil]
    all_goals simp [rejected]

theorem userless_inStages (session : S)
    (accepted : request.account.check request.target = .ok ()) {failure : Failure}
    (user : UserDialogue request.account calls (.error failure)) :
    InStages request (.ok session) calls (.error failure) := by
  have nobody : ∀ outcome, ¬UserEnded calls request.account outcome := by
    intro outcome ended
    cases (user.ended_iff outcome).1 ended
  obtain ⟨⟨username, database, message, rfl⟩, exchange, member, strikes⟩ := user.failed
  constructor
  case begun => simp [user.ne_nil, accepted]
  case struck =>
    intro exchange member fault strikes
    have failed := Except.error.inj (user.struck member strikes)
    rw [failed]
    cases exchange with
    | mk call reply => cases user.call_of_mem member <;> rfl
  case grant =>
    exact iff_of_true ⟨_, _, _, rfl⟩ (.inr ⟨exchange, member, user.call_of_mem member, strikes⟩)
  case marker => simp [nobody]
  case success => simp [nobody]
  all_goals simp [accepted]

theorem planned_inStages (session : S)
    (accepted : request.account.check request.target = .ok ())
    {first last : List (Exchange Calls)} {outcome : UserOutcome}
    {result : Except Failure MarkerOutcome}
    (user : UserDialogue request.account first (.ok outcome))
    (plan : PlanDialogue request last result) :
    InStages request (.ok session) (first ++ last)
      (result.map fun marker => ⟨outcome, marker⟩) := by
  have markers : Agree false (first ++ last) last := user.agree
  have ended := user.ended_append plan
  have struck := plan.struck_append user
  have cause := plan.failed_iff_append user
  have granted : ¬(((∃ opened : S, (.ok session : Except Fault S) = .ok opened) ∧
      ∃ username database message, request.account.check request.target =
        .error (.grant username database message)) ∨
      ∃ exchange ∈ first ++ last,
        UserCall request.account exchange.op ∧ exchange.strikes ≠ none) := by
    rintro (⟨-, username, database, message, rejected⟩ | strikes)
    · rw [accepted] at rejected
      cases rejected
    · exact user.unstruck_append plan strikes
  have reached : ∃ outcome, UserEnded (first ++ last) request.account outcome :=
    ⟨outcome, (ended outcome).2 rfl⟩
  cases result with
  | error failure =>
    obtain ⟨database, collection, message, rfl⟩ := plan.failed
    constructor
    case begun => simp [user.ne_nil, accepted]
    case struck =>
      intro exchange member fault strikes
      rw [struck exchange member fault strikes]
      rfl
    case grant => exact iff_of_false (by simp [Except.map]) granted
    case marker => exact iff_of_true ⟨_, _, _, rfl⟩ ⟨reached, cause.1 ⟨_, rfl⟩⟩
    case success =>
      intro report
      rw [markers.markerEnded, plan.ended_iff]
      simp [Except.map]
    all_goals simp [Except.map, accepted]
  | ok marker =>
    constructor
    case begun => simp [user.ne_nil, accepted]
    case struck =>
      intro exchange member fault strikes
      cases struck exchange member fault strikes
    case grant => exact iff_of_false (by simp [Except.map]) granted
    case marker =>
      refine iff_of_false (by simp [Except.map]) ?_
      rintro ⟨-, failing⟩
      obtain ⟨failure, same⟩ := cause.2 failing
      cases same
    case success =>
      rintro ⟨otherUser, otherMarker⟩
      rw [ended, markers.markerEnded, plan.ended_iff]
      simp [Except.map, eq_comm]
    all_goals simp [Except.map, accepted]

end

theorem InOrder.looked {collection version : String} {outcome : MarkerOutcome}
    (order : InOrder request calls) (plan : request.plan = .seed collection version)
    (ended : MarkerEnded calls request outcome) :
    ∃ found, Answered calls (.findMarker request.target collection) found := by
  have before : ∀ marker, Asked calls (.insertMarker request.target collection marker) →
      ∃ found, Answered calls (.findMarker request.target collection) found := by
    intro marker asked
    refine ⟨none, (order.ensuring _ _).1 ?_⟩
    exact ((order.inserting _ _).1 ⟨marker, asked⟩).elim Answered.asked Preceded.asked
  rcases ended.cases_of_seed plan with inserted | ⟨marker, found⟩ | preceded
  · exact before _ inserted.asked
  · exact ⟨some marker, found⟩
  · exact before _ preceded.asked

theorem RunDialogue.inOrder {S : Type} {opening : Except Fault S}
    {result : Except Failure Report} (dialogue : RunDialogue request opening calls result) :
    InOrder request calls := by
  cases dialogue with
  | unopened | rejected => exact nil_inOrder request
  | userless _ _ user => exact user.inOrder
  | planned _ _ user plan => exact inOrder_append user plan

theorem RunDialogue.inStages {S : Type} {opening : Except Fault S}
    {result : Except Failure Report} (dialogue : RunDialogue request opening calls result) :
    InStages request opening calls result := by
  cases dialogue with
  | unopened fault => exact unopened_inStages fault
  | rejected session rejected => exact rejected_inStages session rejected
  | userless session accepted user => exact userless_inStages session accepted user
  | planned session accepted user plan => exact planned_inStages session accepted user plan

end

/-- What a run asks of a datastore of any kind, in which order, and how that settles its result. -/
theorem provision_follows_protocol {S σ : Type} (handler : Handler (Store S) σ) (state : σ)
    (request : Request) :
    let exchanges := request.provision.trace handler state
    let calls := exchanges.filterMap Exchange.onSession
    ∃ opening, exchanges.head? = some ⟨.openSession request.scope request.admin, opening⟩ ∧
      InOrder request calls ∧
        InStages request opening calls (request.provision.run handler state).value := by
  intro exchanges calls
  obtain ⟨opening, opens, dialogue⟩ := provision_dialogue handler state request
  exact ⟨opening, opens, dialogue.inOrder, dialogue.inStages⟩

end Provision
