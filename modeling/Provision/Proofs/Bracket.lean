import Provision.Proofs.Contract
import Provision.Proofs.Exchange
import Provision.Provisioning
/-!
What happens between the opening of a session and its close.

A body runs on a session as it would by itself over the calls of that session. So a run, a trace and
a contract of a provisioning run all come down to those of its body.
-/

namespace Provision

/-- How a datastore answers the calls on one session. -/
def callsOn {S σ : Type} (handler : Handler (Store S) σ) (session : S) : Handler Calls σ :=
  fun asked => handler (.call session asked)

namespace Program

variable {S α σ : Type} (handler : Handler (Store S) σ) (session : S) (body : Program Calls α)

theorem run_on (state : σ) :
    (body.on session).run handler state = body.run (callsOn handler session) state := by
  induction body generalizing state with
  | done value => rfl
  | emit event rest ih =>
    have later := ih state
    simp only [on, via, run] at later ⊢
    rw [later]
  | perform asked next ih => exact ih _ _

def exchangesOn (session : S) (calls : List (Exchange Calls)) : List (Exchange (Store S)) :=
  calls.map fun exchange => ⟨.call session exchange.op, exchange.reply⟩

theorem mem_exchangesOn {calls : List (Exchange Calls)} {call : Call}
    {reply : Except Fault call.Answer} (member : ⟨call, reply⟩ ∈ calls) :
    ⟨.call session call, reply⟩ ∈ exchangesOn session calls :=
  List.mem_map_of_mem (f := fun exchange : Exchange Calls =>
    (⟨.call session exchange.op, exchange.reply⟩ : Exchange (Store S))) member

theorem trace_on (state : σ) :
    (body.on session).trace handler state =
      exchangesOn session (body.trace (callsOn handler session) state) := by
  induction body generalizing state with
  | done value => rfl
  | emit event rest ih => exact ih state
  | perform asked next ih => exact congrArg (_ :: ·) (ih _ _)

variable {handler} {session} {body}

theorem Respects.on {contract : Contract σ} {post : α → σ → Prop} {state : σ}
    (respects : body.Respects (callsOn handler session) contract post state) :
    (body.on session).Respects handler contract post state := by
  induction body generalizing state with
  | done value => exact respects
  | emit event rest ih => exact ih respects
  | perform asked next ih =>
    intro later moved
    obtain ⟨kept, rest⟩ := respects later moved
    exact ⟨kept, ih _ rest⟩

end Program

section

open Program

variable {S α σ : Type} {handler : Handler (Store S) σ} {scope : String}
variable {credentials : Credentials} {state middle : σ}
variable (operation : Operation) (body : Program Calls α)

theorem withSession_run_of_opened {session : S}
    (opened : handler (.openSession scope credentials) state = (.ok session, middle)) :
    let held := body.run (callsOn handler session) middle
    let ran := (withSession operation scope credentials body).run handler state
    ran.value = .ok held.value ∧ ran.state = (handler (.close session) held.state).2 := by
  simp only [withSession, run, opened, run_bind, run_on]
  cases (handler (.close session) (body.run (callsOn handler session) middle).state).1 <;>
    exact ⟨rfl, rfl⟩

theorem withSession_run_of_refused {fault : Fault}
    (refused : handler (.openSession scope credentials) state = (.error fault, middle)) :
    (withSession operation scope credentials body).run handler state =
      ⟨.error fault, [], middle⟩ := by
  simp only [withSession, run, refused]

theorem withSession_trace_of_opened {session : S}
    (opened : handler (.openSession scope credentials) state = (.ok session, middle)) :
    ∃ closed, (withSession operation scope credentials body).trace handler state =
      ⟨.openSession scope credentials, .ok session⟩ ::
        (exchangesOn session (body.trace (callsOn handler session) middle) ++
          [⟨.close session, closed⟩]) := by
  let ended := body.run (callsOn handler session) middle
  refine ⟨(handler (.close session) ended.state).1, ?_⟩
  simp only [withSession, trace, opened, trace_bind, run_on, trace_on]
  cases (handler (.close session) (body.run (callsOn handler session) middle).state).1 <;> rfl

theorem withSession_trace_of_refused {fault : Fault}
    (refused : handler (.openSession scope credentials) state = (.error fault, middle)) :
    (withSession operation scope credentials body).trace handler state =
      [⟨.openSession scope credentials, .error fault⟩] := by
  simp only [withSession, trace, refused]

end

namespace Request

open Program

variable {S σ : Type} {handler : Handler (Store S) σ} {request : Request} {state middle : σ}

theorem provision_run_of_opened {session : S}
    (opened : handler (.openSession request.scope request.admin) state = (.ok session, middle)) :
    let body := request.body.run (callsOn handler session) middle
    (request.provision.run handler state).value = body.value ∧
      (request.provision.run handler state).state =
        (handler (.close session) body.state).2 := by
  obtain ⟨value, ended⟩ := withSession_run_of_opened .provision request.body opened
  simp only [provision, run, run_bind, value, ended]
  cases (request.body.run (callsOn handler session) middle).value <;> exact ⟨rfl, rfl⟩

theorem provision_run_of_refused {fault : Fault}
    (refused : handler (.openSession request.scope request.admin) state =
      (.error fault, middle)) :
    (request.provision.run handler state).value = .error (adminRefused request.scope fault) ∧
      (request.provision.run handler state).state = middle := by
  simp only [provision, run, run_bind, withSession_run_of_refused _ _ refused, and_self]

theorem provision_trace (request : Request) (handler : Handler (Store S) σ) (state : σ) :
    request.provision.trace handler state =
      (withSession .provision request.scope request.admin request.body).trace handler state := by
  refine trace_bind_of_quiet (fun value state => ?_) state
  rcases value with fault | failure | report <;> rfl

theorem provision_trace_of_opened {session : S}
    (opened : handler (.openSession request.scope request.admin) state = (.ok session, middle)) :
    ∃ closed, request.provision.trace handler state =
      ⟨.openSession request.scope request.admin, .ok session⟩ ::
        (exchangesOn session (request.body.trace (callsOn handler session) middle) ++
          [⟨.close session, closed⟩]) := by
  rw [provision_trace]
  exact withSession_trace_of_opened _ _ opened

theorem provision_trace_of_refused {fault : Fault}
    (refused : handler (.openSession request.scope request.admin) state =
      (.error fault, middle)) :
    request.provision.trace handler state =
      [⟨.openSession request.scope request.admin, .error fault⟩] := by
  rw [provision_trace, withSession_trace_of_refused _ _ refused]

theorem provision_respects {contract : Contract σ}
    {post : Except Failure Report → σ → Prop}
    (opening : ∀ later, contract.rely state later →
      contract.guarantee later (handler (.openSession request.scope request.admin) later).2)
    (refused : ∀ later fault after, contract.rely state later →
      handler (.openSession request.scope request.admin) later = (.error fault, after) →
        ∀ last, contract.rely after last → post (.error (adminRefused request.scope fault)) last)
    (opened : ∀ later session after, contract.rely state later →
      handler (.openSession request.scope request.admin) later = (.ok session, after) →
        request.body.Respects (callsOn handler session) contract
          (fun result middle => ∀ closing, contract.rely middle closing →
            contract.guarantee closing (handler (.close session) closing).2 ∧
              ∀ last, contract.rely (handler (.close session) closing).2 last →
                post result last) after) :
    request.provision.Respects handler contract post state := by
  unfold provision
  apply Respects.bind
  intro later moved
  refine ⟨opening later moved, ?_⟩
  cases answered : handler (.openSession request.scope request.admin) later with
  | mk reply after =>
    cases reply with
    | error fault =>
      exact fun last rest later final =>
        refused _ fault after moved answered _ (contract.trans _ _ _ rest final)
    | ok session =>
      refine Respects.bind ((opened later session after moved answered).on.weaken ?_)
      intro result middle closes closing reached
      obtain ⟨kept, met⟩ := closes closing reached
      refine ⟨kept, ?_⟩
      cases (handler (.close session) closing).1 <;> cases result <;>
        exact fun last rest later final => met _ (contract.trans _ _ _ rest final)

end Request

end Provision
