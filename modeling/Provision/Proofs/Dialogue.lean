import Provision.Proofs.Asked
import Provision.Proofs.Bracket
/-!
The dialogue of a provisioning run with a datastore of any kind.

Each part of a run asks its calls in a fixed order and goes on from the replies in a fixed way, so
the replies settle which calls are made and how the run ends.
-/

namespace Provision

inductive UserDialogue (account : Account) :
    List (Exchange Calls) → Except Failure UserOutcome → Prop
  | unseen (fault : Fault) :
      UserDialogue account [⟨.userExists account.database account.username, .error fault⟩]
        (.error (.grant account.username account.database fault.message))
  | present :
      UserDialogue account [⟨.userExists account.database account.username, .ok true⟩]
        (.ok .alreadyPresent)
  | created :
      UserDialogue account [⟨.userExists account.database account.username, .ok false⟩,
        ⟨.createUser account, .ok ()⟩] (.ok .created)
  | meanwhile (fault : Fault) (already : fault.isAlreadyExists = true) :
      UserDialogue account [⟨.userExists account.database account.username, .ok false⟩,
        ⟨.createUser account, .error fault⟩] (.ok .alreadyPresent)
  | refused (fault : Fault) (other : fault.isAlreadyExists = false) :
      UserDialogue account [⟨.userExists account.database account.username, .ok false⟩,
        ⟨.createUser account, .error fault⟩]
        (.error (.grant account.username account.database fault.message))

inductive SeedDialogue (database collection : String) (marker : Marker) :
    List (Exchange Calls) → Except Failure MarkerOutcome → Prop
  | seeded : SeedDialogue database collection marker
      [⟨.insertMarker database collection marker, .ok ()⟩] (.ok .seeded)
  | meanwhile (fault : Fault) (already : fault.isAlreadyExists = true) :
      SeedDialogue database collection marker
        [⟨.insertMarker database collection marker, .error fault⟩] (.ok .alreadyPresent)
  | refused (fault : Fault) (other : fault.isAlreadyExists = false) :
      SeedDialogue database collection marker
        [⟨.insertMarker database collection marker, .error fault⟩]
        (.error (.marker database collection fault.message))

inductive MarkerDialogue (database collection version : String) (stamp : Int64) :
    List (Exchange Calls) → Except Failure MarkerOutcome → Prop
  | nameless (nameless : collection = "") :
      MarkerDialogue database collection version stamp []
        (.error (.marker database collection "collection name must not be empty"))
  | versionless (named : collection ≠ "") (versionless : version = "") :
      MarkerDialogue database collection version stamp []
        (.error (.marker database collection "marker version must not be empty"))
  | unseen (named : collection ≠ "") (versioned : version ≠ "") (fault : Fault) :
      MarkerDialogue database collection version stamp
        [⟨.findMarker database collection, .error fault⟩]
        (.error (.marker database collection fault.message))
  | present (named : collection ≠ "") (versioned : version ≠ "") (marker : Marker) :
      MarkerDialogue database collection version stamp
        [⟨.findMarker database collection, .ok (some marker)⟩] (.ok .alreadyPresent)
  | unensured (named : collection ≠ "") (versioned : version ≠ "") (fault : Fault)
      (other : fault.isAlreadyExists = false) :
      MarkerDialogue database collection version stamp
        [⟨.findMarker database collection, .ok none⟩,
          ⟨.ensureCollection database collection, .error fault⟩]
        (.error (.marker database collection fault.message))
  | ensured (named : collection ≠ "") (versioned : version ≠ "") (reply : Except Fault Unit)
      (tolerated : ∀ fault, reply = .error fault → fault.isAlreadyExists = true)
      {calls : List (Exchange Calls)} {result : Except Failure MarkerOutcome}
      (seeding : SeedDialogue database collection (.fresh version stamp) calls result) :
      MarkerDialogue database collection version stamp
        (⟨.findMarker database collection, .ok none⟩ ::
          ⟨.ensureCollection database collection, reply⟩ :: calls) result

section

variable {σ : Type} (handler : Handler Calls σ) (state : σ)

theorem ensureUser_dialogue (account : Account) :
    UserDialogue account ((ensureUser account).trace handler state)
      ((ensureUser account).run handler state).value := by
  simp only [ensureUser, Program.trace, Program.run]
  cases handler (.userExists account.database account.username) state with
  | mk reply asking =>
  cases reply with
  | error fault => exact .unseen fault
  | ok found =>
    cases found with
    | true => exact .present
    | false =>
      simp only [Program.trace, Program.run]
      cases handler (.createUser account) asking with
      | mk reply creating =>
      cases reply with
      | ok value => exact .created
      | error fault =>
        cases already : fault.isAlreadyExists with
        | true =>
          simp only [already, ↓reduceIte, Program.trace, Program.run]
          exact .meanwhile fault already
        | false =>
          simp only [already, Bool.false_eq_true, ↓reduceIte, Program.trace, Program.run]
          exact .refused fault already

theorem seedMarker_dialogue (database collection : String) (marker : Marker) :
    SeedDialogue database collection marker
      ((seedMarker database collection marker).trace handler state)
      ((seedMarker database collection marker).run handler state).value := by
  simp only [seedMarker, Program.trace, Program.run]
  cases handler (.insertMarker database collection marker) state with
  | mk reply inserting =>
  cases reply with
  | ok value => exact .seeded
  | error fault =>
    cases already : fault.isAlreadyExists with
    | true =>
      simp only [already, ↓reduceIte, Program.trace, Program.run]
      exact .meanwhile fault already
    | false =>
      simp only [already, Bool.false_eq_true, ↓reduceIte, Program.trace, Program.run]
      exact .refused fault already

theorem ensureMarker_dialogue (database collection version : String) (stamp : Int64) :
    MarkerDialogue database collection version stamp
      ((ensureMarker database collection version stamp).trace handler state)
      ((ensureMarker database collection version stamp).run handler state).value := by
  by_cases named : collection = ""
  · subst named
    exact .nameless rfl
  by_cases versioned : version = ""
  · have refused : ensureMarker database collection version stamp =
        .done (.error (.marker database collection "marker version must not be empty")) := by
      simp [ensureMarker, named, versioned]
    rw [refused]
    exact .versionless named versioned
  rw [ensureMarker_of_named stamp named versioned]
  simp only [Program.trace, Program.run]
  cases handler (.findMarker database collection) state with
  | mk reply asking =>
  cases reply with
  | error fault => exact .unseen named versioned fault
  | ok found =>
    cases found with
    | some marker => exact .present named versioned marker
    | none =>
      simp only [Program.trace, Program.run]
      cases handler (.ensureCollection database collection) asking with
      | mk reply ensuring =>
      have seeding := seedMarker_dialogue handler ensuring database collection
        (.fresh version stamp)
      cases reply with
      | ok value => exact .ensured named versioned (.ok value) (by simp) seeding
      | error fault =>
        cases already : fault.isAlreadyExists with
        | true =>
          simp only [already, ↓reduceIte]
          refine .ensured named versioned (.error fault) ?_ seeding
          intro other same
          rwa [← Except.error.inj same]
        | false =>
          simp only [already, Bool.false_eq_true, ↓reduceIte, Program.trace, Program.run]
          exact .unensured named versioned fault already

end

inductive PlanDialogue (request : Request) :
    List (Exchange Calls) → Except Failure MarkerOutcome → Prop
  | skipped (plan : request.plan = .skip) : PlanDialogue request [] (.ok .skipped)
  | seeding {collection version : String} (plan : request.plan = .seed collection version)
      {calls : List (Exchange Calls)} {result : Except Failure MarkerOutcome}
      (dialogue : MarkerDialogue request.target collection version request.stamp calls result) :
      PlanDialogue request calls result

/-- Every course that a run can take, from the reply to its opening. -/
inductive RunDialogue {S : Type} (request : Request) :
    Except Fault S → List (Exchange Calls) → Except Failure Report → Prop
  | unopened (fault : Fault) :
      RunDialogue request (.error fault) [] (.error (adminRefused request.scope fault))
  | rejected (session : S) {failure : Failure}
      (rejected : request.account.check request.target = .error failure) :
      RunDialogue request (.ok session) [] (.error failure)
  | userless (session : S) (accepted : request.account.check request.target = .ok ())
      {calls : List (Exchange Calls)} {failure : Failure}
      (user : UserDialogue request.account calls (.error failure)) :
      RunDialogue request (.ok session) calls (.error failure)
  | planned (session : S) (accepted : request.account.check request.target = .ok ())
      {first last : List (Exchange Calls)} {outcome : UserOutcome}
      {result : Except Failure MarkerOutcome}
      (user : UserDialogue request.account first (.ok outcome))
      (plan : PlanDialogue request last result) :
      RunDialogue request (.ok session) (first ++ last) (result.map fun marker => ⟨outcome, marker⟩)

theorem applyPlan_dialogue {σ : Type} (handler : Handler Calls σ) (state : σ) (request : Request) :
    PlanDialogue request
      ((applyPlan request.target request.plan request.stamp).trace handler state)
      ((applyPlan request.target request.plan request.stamp).run handler state).value := by
  cases plan : request.plan with
  | skip => exact .skipped plan
  | seed collection version =>
    exact .seeding plan (ensureMarker_dialogue handler state request.target collection version
      request.stamp)

theorem body_dialogue {S σ : Type} (session : S) (handler : Handler Calls σ) (state : σ)
    (request : Request) :
    RunDialogue request (.ok session) (request.body.trace handler state)
      (request.body.run handler state).value := by
  unfold Request.body
  cases accepted : request.account.check request.target with
  | error failure => exact .rejected session accepted
  | ok value =>
    have user := ensureUser_dialogue handler state request.account
    simp only [Program.trace_bind, Program.run_bind]
    cases ensured : (ensureUser request.account).run handler state with
    | mk result log middle =>
    rw [ensured] at user
    cases result with
    | error failure => simpa [Program.trace, Program.run] using .userless session accepted user
    | ok outcome =>
      have plan := applyPlan_dialogue handler middle request
      simp only [Program.trace_bind, Program.run_bind]
      cases applied : (applyPlan request.target request.plan request.stamp).run handler middle with
      | mk result log last =>
      rw [applied] at plan
      have planned : RunDialogue request (.ok session) _ _ := .planned session accepted user plan
      cases result with
      | error failure => simpa [Program.trace, Program.run, Except.map] using planned
      | ok marker => simpa [Program.trace, Program.run, Except.map] using planned

/-- What was asked on a session, and what was answered, if that is what the exchange was. -/
def Exchange.onSession {S : Type} : Exchange (Store S) → Option (Exchange Calls)
  | ⟨.call _ asked, reply⟩ => some ⟨asked, reply⟩
  | _ => none

theorem filterMap_onSession {S : Type} (session : S) (calls : List (Exchange Calls)) :
    (Program.exchangesOn session calls).filterMap Exchange.onSession = calls := by
  induction calls with
  | nil => rfl
  | cons exchange rest ih => exact congrArg (exchange :: ·) ih

theorem filterMap_onSession_of_held {S : Type} {scope : String} {credentials : Credentials}
    {session : S} (calls : List (Exchange Calls)) (closed : Except Fault Unit) :
    (⟨.openSession scope credentials, .ok session⟩ ::
      (Program.exchangesOn session calls ++ [⟨.close session, closed⟩])).filterMap
        Exchange.onSession = calls := by
  calc
    _ = (Program.exchangesOn session calls ++
          [(⟨.close session, closed⟩ : Exchange (Store S))]).filterMap Exchange.onSession := rfl
    _ = calls := by
      rw [List.filterMap_append, filterMap_onSession]
      exact List.append_nil _

theorem exchanged_of_mem_onSession {S : Type} {exchanges : List (Exchange (Store S))} {call : Call}
    {answer : Except Fault call.Answer}
    (member : ⟨call, answer⟩ ∈ exchanges.filterMap Exchange.onSession) :
    ∃ session, ⟨.call session call, answer⟩ ∈ exchanges := by
  obtain ⟨⟨op, reply⟩, exchanged, same⟩ := List.mem_filterMap.1 member
  cases op with
  | openSession | close => cases same
  | call session asked =>
    cases same
    exact ⟨session, exchanged⟩

/-- A run opens its session first, and from there takes one of the known courses. -/
theorem provision_dialogue {S σ : Type} (handler : Handler (Store S) σ) (state : σ)
    (request : Request) :
    let exchanges := request.provision.trace handler state
    ∃ opening, exchanges.head? = some ⟨.openSession request.scope request.admin, opening⟩ ∧
      RunDialogue request opening (exchanges.filterMap Exchange.onSession)
        (request.provision.run handler state).value := by
  intro exchanges
  cases opened : handler (.openSession request.scope request.admin) state with
  | mk opening middle =>
  cases opening with
  | error fault =>
    obtain ⟨value, -⟩ := Request.provision_run_of_refused opened
    have trace : exchanges = _ := Request.provision_trace_of_refused opened
    refine ⟨.error fault, by rw [trace]; rfl, ?_⟩
    rw [trace, value]
    exact .unopened fault
  | ok session =>
    obtain ⟨value, -⟩ := Request.provision_run_of_opened opened
    obtain ⟨closed, trace⟩ := Request.provision_trace_of_opened opened
    have asked : exchanges.filterMap Exchange.onSession =
        request.body.trace (callsOn handler session) middle := by
      rw [show exchanges = _ from trace, filterMap_onSession_of_held]
    refine ⟨.ok session, by simp only [exchanges, trace, List.head?_cons], ?_⟩
    rw [asked, value]
    exact body_dialogue session (callsOn handler session) middle request

theorem provision_dialogue_of_ok {S σ : Type} {handler : Handler (Store S) σ} {state : σ}
    {request : Request} {report : Report}
    (ran : (request.provision.run handler state).value = .ok report) :
    let exchanges := request.provision.trace handler state
    ∃ session calls, ⟨.openSession request.scope request.admin, .ok session⟩ ∈ exchanges ∧
      (∀ exchange ∈ Program.exchangesOn session calls, exchange ∈ exchanges) ∧
      RunDialogue request (.ok session) calls (.ok report) := by
  intro exchanges
  cases opened : handler (.openSession request.scope request.admin) state with
  | mk opening middle =>
  cases opening with
  | error fault =>
    obtain ⟨value, -⟩ := Request.provision_run_of_refused opened
    rw [value] at ran
    cases ran
  | ok session =>
    obtain ⟨value, -⟩ := Request.provision_run_of_opened opened
    obtain ⟨closed, trace⟩ := Request.provision_trace_of_opened opened
    have dialogue := body_dialogue session (callsOn handler session) middle request
    rw [← value, ran] at dialogue
    refine ⟨session, _, ?_, ?_, dialogue⟩
    · rw [show exchanges = _ from trace]
      exact List.mem_cons_self
    · intro exchange member
      rw [show exchanges = _ from trace]
      exact List.mem_cons_of_mem _ (List.mem_append_left _ member)

end Provision
