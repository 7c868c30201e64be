import Provision.Proofs.Exchange
import Provision.Provisioning
/-!
The calls that each part of a provisioning run can make at all, whatever it is answered.
-/

namespace Provision

inductive UserCall (account : Account) : Call → Prop
  | look : UserCall account (.userExists account.database account.username)
  | create : UserCall account (.createUser account)

inductive MarkerCall (database collection : String) (marker : Marker) : Call → Prop
  | look : MarkerCall database collection marker (.findMarker database collection)
  | ensure : MarkerCall database collection marker (.ensureCollection database collection)
  | insert : MarkerCall database collection marker (.insertMarker database collection marker)

theorem Program.Asks.mono {I : Interface} {α : Type} {program : Program I α}
    {allowed wider : I.Op → Prop} (asks : program.Asks allowed)
    (within : ∀ op, allowed op → wider op) : program.Asks wider := by
  induction program with
  | done value => trivial
  | emit event rest ih => exact ih asks
  | perform op next ih => exact ⟨within op asks.1, fun reply => ih reply (asks.2 reply)⟩

theorem ensureUser_asks (account : Account) : (ensureUser account).Asks (UserCall account) := by
  refine ⟨.look, ?_⟩
  rintro (fault | _ | _)
  · trivial
  · refine ⟨.create, ?_⟩
    rintro (fault | value)
    · cases already : fault.isAlreadyExists <;> simp [already, Program.Asks]
    · trivial
  · trivial

variable (database collection version : String) (marker : Marker) (stamp : Int64)

theorem seedMarker_asks : (seedMarker database collection marker).Asks
    (MarkerCall database collection marker) := by
  refine ⟨.insert, ?_⟩
  rintro (fault | value)
  · cases already : fault.isAlreadyExists <;> simp [already, Program.Asks]
  · trivial

theorem ensureMarker_asks : (ensureMarker database collection version stamp).Asks
    (MarkerCall database collection (.fresh version stamp)) := by
  by_cases named : collection = ""
  · subst named
    trivial
  by_cases versioned : version = ""
  · simp [ensureMarker, named, versioned, Program.Asks]
  rw [ensureMarker_of_named stamp named versioned]
  refine ⟨.look, ?_⟩
  rintro (fault | _ | found)
  · trivial
  · refine ⟨.ensure, ?_⟩
    rintro (fault | value)
    · cases already : fault.isAlreadyExists with
      | true => simpa [already] using seedMarker_asks database collection (.fresh version stamp)
      | false => simp [already, Program.Asks]
    · exact seedMarker_asks database collection (.fresh version stamp)
  · trivial

theorem applyPlan_asks (target : String) (plan : MarkerPlan) :
    (applyPlan target plan stamp).Asks fun call =>
      ∃ collection version, plan = .seed collection version ∧
        MarkerCall target collection (.fresh version stamp) call := by
  cases plan with
  | skip => trivial
  | seed collection version =>
    apply (ensureMarker_asks target collection version stamp).mono
    intro call asked
    exact ⟨collection, version, rfl, asked⟩

end Provision
