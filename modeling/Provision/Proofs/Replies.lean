import Mathlib.Data.List.Basic
import Provision.Proofs.Dialogue
/-!
What the replies tell about the two steps of a provisioning run.

Which calls a step makes, whether it ended well, and the fault that it failed with can all be read
off the exchanges it had.
-/

namespace Provision

/-- The calls for which "already exists" is as good as success. -/
def Call.toleratesExisting : Call → Bool
  | .createUser _ | .ensureCollection .. | .insertMarker .. => true
  | _ => false

def Call.concernsUser : Call → Bool
  | .userExists .. | .createUser _ => true
  | _ => false

/-- The fault that an exchange brings a run to its end with. -/
def Exchange.strikes (exchange : Exchange Calls) : Option Fault :=
  match exchange.reply with
  | .ok _ => none
  | .error fault =>
    if exchange.op.toleratesExisting && fault.isAlreadyExists then none else some fault

theorem Exchange.eq_of_strikes {call : Call} {replied fault : Fault}
    (strikes : Exchange.strikes ⟨call, .error replied⟩ = some fault) : replied = fault := by
  unfold Exchange.strikes at strikes
  split at strikes
  · cases strikes
  · rename_i same
    cases same
    split at strikes
    · cases strikes
    · exact Option.some.inj strikes

theorem Exchange.strikes_of_already {call : Call} {fault : Fault}
    (tolerates : call.toleratesExisting = true) (already : fault.isAlreadyExists = true) :
    Exchange.strikes ⟨call, .error fault⟩ = none := by
  simp [Exchange.strikes, tolerates, already]

theorem Exchange.strikes_ne_none {call : Call} {fault : Fault}
    (other : fault.isAlreadyExists = false) :
    Exchange.strikes ⟨call, .error fault⟩ ≠ none := by
  simp [Exchange.strikes, other]

section

variable (calls : List (Exchange Calls))

def Asked (call : Call) : Prop :=
  call ∈ calls.map Exchange.op

def Answered (call : Call) (answer : call.Answer) : Prop :=
  ⟨call, .ok answer⟩ ∈ calls

/-- The call found that somebody else had been faster. -/
def Preceded (call : Call) : Prop :=
  ∃ fault : Fault, fault.isAlreadyExists = true ∧ ⟨call, .error fault⟩ ∈ calls

def UserEnded (account : Account) : UserOutcome → Prop
  | .created => Answered calls (.createUser account) ()
  | .alreadyPresent => Answered calls (.userExists account.database account.username) true ∨
    Preceded calls (.createUser account)

def MarkerEnded (request : Request) : MarkerOutcome → Prop
  | .skipped => request.plan = .skip
  | .seeded => ∃ collection version, request.plan = .seed collection version ∧
    Answered calls (.insertMarker request.target collection (.fresh version request.stamp)) ()
  | .alreadyPresent => ∃ collection version, request.plan = .seed collection version ∧
    ((∃ marker, Answered calls (.findMarker request.target collection) (some marker)) ∨
      Preceded calls (.insertMarker request.target collection (.fresh version request.stamp)))

end

namespace Request

def userScript (request : Request) (found : Bool) : List Call :=
  .userExists request.account.database request.account.username ::
    if found then [] else [.createUser request.account]

def planScript (request : Request) : List Call :=
  match request.plan with
  | .skip => []
  | .seed collection version =>
    [.findMarker request.target collection, .ensureCollection request.target collection,
      .insertMarker request.target collection (.fresh version request.stamp)]

def failureAt (request : Request) (fault : Fault) : Call → Failure
  | .findMarker database collection | .ensureCollection database collection
  | .insertMarker database collection _ => .marker database collection fault.message
  | _ => .grant request.account.username request.account.database fault.message

end Request

section

variable {request : Request} {account : Account} {calls : List (Exchange Calls)}

theorem Asked.of_mem {call : Call} {reply : Except Fault call.Answer}
    (member : ⟨call, reply⟩ ∈ calls) : Asked calls call :=
  List.mem_map_of_mem member

theorem Answered.asked {call : Call} {answer : call.Answer}
    (answered : Answered calls call answer) : Asked calls call :=
  .of_mem answered

theorem Preceded.asked {call : Call} (preceded : Preceded calls call) : Asked calls call := by
  obtain ⟨fault, -, member⟩ := preceded
  exact .of_mem member

theorem MarkerEnded.cases_of_seed {collection version : String} {outcome : MarkerOutcome}
    (plan : request.plan = .seed collection version)
    (ended : MarkerEnded calls request outcome) :
    Answered calls (.insertMarker request.target collection (.fresh version request.stamp)) () ∨
      (∃ marker, Answered calls (.findMarker request.target collection) (some marker)) ∨
      Preceded calls (.insertMarker request.target collection (.fresh version request.stamp)) := by
  cases outcome with
  | skipped => cases plan.symm.trans ended
  | seeded =>
    obtain ⟨_, _, again, inserted⟩ := ended
    obtain ⟨rfl, rfl⟩ := MarkerPlan.seed.inj (plan.symm.trans again)
    exact .inl inserted
  | alreadyPresent =>
    obtain ⟨_, _, again, there⟩ := ended
    obtain ⟨rfl, rfl⟩ := MarkerPlan.seed.inj (plan.symm.trans again)
    exact .inr there

namespace UserDialogue

variable {result : Except Failure UserOutcome}

theorem call_of_mem (dialogue : UserDialogue account calls result) {exchange : Exchange Calls}
    (member : exchange ∈ calls) : UserCall account exchange.op := by
  cases dialogue <;> simp only [List.mem_cons, List.not_mem_nil, or_false] at member
  case unseen | present =>
    subst member
    exact .look
  case created | meanwhile | refused =>
    rcases member with rfl | rfl
    · exact .look
    · exact .create

theorem ops_prefix (dialogue : UserDialogue request.account calls result) :
    ∃ found, calls.map Exchange.op <+: request.userScript found ∧
      ∀ outcome, result = .ok outcome → calls.map Exchange.op = request.userScript found := by
  cases dialogue with
  | unseen => exact ⟨true, List.prefix_rfl, by simp⟩
  | present => exact ⟨true, List.prefix_rfl, fun _ _ => rfl⟩
  | created | meanwhile | refused => exact ⟨false, List.prefix_rfl, fun _ _ => rfl⟩

theorem creating (dialogue : UserDialogue account calls result) :
    Asked calls (.createUser account) ↔
      Answered calls (.userExists account.database account.username) false := by
  cases dialogue <;> simp [Asked, Answered]

theorem ended_iff (dialogue : UserDialogue account calls result) (outcome : UserOutcome) :
    UserEnded calls account outcome ↔ result = .ok outcome := by
  cases dialogue <;> cases outcome <;> simp_all [UserEnded, Answered, Preceded]

theorem stops (dialogue : UserDialogue account calls result) :
    ∀ exchange ∈ calls.dropLast, exchange.strikes = none := by
  cases dialogue <;> simp [Exchange.strikes]

theorem struck (dialogue : UserDialogue account calls result) {exchange : Exchange Calls}
    {fault : Fault} (member : exchange ∈ calls) (strikes : exchange.strikes = some fault) :
    result = .error (.grant account.username account.database fault.message) := by
  cases dialogue with
  | unseen replied =>
    obtain rfl := List.mem_singleton.1 member
    rw [Exchange.eq_of_strikes strikes]
  | present =>
    obtain rfl := List.mem_singleton.1 member
    cases strikes
  | created =>
    rcases List.mem_pair.1 member with rfl | rfl <;> cases strikes
  | meanwhile replied already =>
    rcases List.mem_pair.1 member with rfl | rfl
    · cases strikes
    · rw [Exchange.strikes_of_already rfl already] at strikes
      cases strikes
  | refused replied =>
    rcases List.mem_pair.1 member with rfl | rfl
    · cases strikes
    · rw [Exchange.eq_of_strikes strikes]

theorem failed {failure : Failure} (dialogue : UserDialogue account calls (.error failure)) :
    (∃ username database message, failure = .grant username database message) ∧
      ∃ exchange ∈ calls, exchange.strikes ≠ none := by
  cases dialogue with
  | unseen fault => exact ⟨⟨_, _, _, rfl⟩, _, .head _, nofun⟩
  | refused fault other =>
    exact ⟨⟨_, _, _, rfl⟩, _, .tail _ (.head _), Exchange.strikes_ne_none other⟩

theorem ne_nil (dialogue : UserDialogue account calls result) : calls ≠ [] := by
  cases dialogue <;> exact List.cons_ne_nil _ _

end UserDialogue

theorem SeedDialogue.struck {database collection : String} {marker : Marker}
    {result : Except Failure MarkerOutcome}
    (dialogue : SeedDialogue database collection marker calls result) {exchange : Exchange Calls}
    {fault : Fault} (member : exchange ∈ calls) (strikes : exchange.strikes = some fault) :
    result = .error (.marker database collection fault.message) := by
  cases dialogue <;> obtain rfl := List.mem_singleton.1 member
  case seeded => cases strikes
  case meanwhile replied already =>
    rw [Exchange.strikes_of_already rfl already] at strikes
    cases strikes
  case refused replied other => rw [Exchange.eq_of_strikes strikes]

namespace MarkerDialogue

variable {database collection version : String} {stamp : Int64}
variable {result : Except Failure MarkerOutcome}

theorem ops_prefix (dialogue : MarkerDialogue database collection version stamp calls result) :
    calls.map Exchange.op <+: [.findMarker database collection,
      .ensureCollection database collection,
      .insertMarker database collection (.fresh version stamp)] := by
  cases dialogue with
  | nameless | versionless => exact List.nil_prefix
  | unseen | present => exact ⟨[_, _], rfl⟩
  | unensured => exact ⟨[_], rfl⟩
  | ensured _ _ reply tolerated seeding => cases seeding <;> exact List.prefix_rfl

theorem call_of_mem (dialogue : MarkerDialogue database collection version stamp calls result)
    {exchange : Exchange Calls} (member : exchange ∈ calls) :
    MarkerCall database collection (.fresh version stamp) exchange.op := by
  have asked := dialogue.ops_prefix.subset (List.mem_map_of_mem member)
  simp only [List.mem_cons, List.not_mem_nil, or_false] at asked
  rcases asked with same | same | same
  · rw [same]
    exact .look
  · rw [same]
    exact .ensure
  · rw [same]
    exact .insert

theorem looking (dialogue : MarkerDialogue database collection version stamp calls result) :
    Asked calls (.findMarker database collection) ↔ collection ≠ "" ∧ version ≠ "" := by
  cases dialogue with
  | nameless nameless => simp [Asked, nameless]
  | versionless _ versionless => simp [Asked, versionless]
  | unseen named versioned | present named versioned | unensured named versioned
  | ensured named versioned => simp [Asked, named, versioned]

theorem ensuring (dialogue : MarkerDialogue database collection version stamp calls result) :
    Asked calls (.ensureCollection database collection) ↔
      Answered calls (.findMarker database collection) none := by
  cases dialogue <;> simp [Asked, Answered]

theorem inserting (dialogue : MarkerDialogue database collection version stamp calls result) :
    Asked calls (.insertMarker database collection (.fresh version stamp)) ↔
      Answered calls (.ensureCollection database collection) () ∨
        Preceded calls (.ensureCollection database collection) := by
  cases dialogue with
  | nameless | versionless | unseen | present => simp [Asked, Answered, Preceded]
  | unensured _ _ fault other => simp_all [Asked, Answered, Preceded]
  | @ensured _ _ reply tolerated rest _ seeding =>
    have asked : Asked (⟨.findMarker database collection, .ok none⟩ ::
        ⟨.ensureCollection database collection, reply⟩ :: rest)
          (.insertMarker database collection (.fresh version stamp)) := by
      cases seeding <;> simp [Asked]
    apply iff_of_true asked
    cases reply with
    | ok value => exact .inl (.tail _ (.head _))
    | error fault => exact .inr ⟨fault, tolerated fault rfl, .tail _ (.head _)⟩

theorem unstruck_of_tolerated (database collection : String) {reply : Except Fault Unit}
    (tolerated : ∀ fault, reply = .error fault → fault.isAlreadyExists = true) :
    Exchange.strikes ⟨.ensureCollection database collection, reply⟩ = none := by
  cases reply with
  | ok value => rfl
  | error fault => exact Exchange.strikes_of_already rfl (tolerated fault rfl)

theorem stops (dialogue : MarkerDialogue database collection version stamp calls result) :
    ∀ exchange ∈ calls.dropLast, exchange.strikes = none := by
  cases dialogue with
  | nameless | versionless | unseen | present | unensured => simp [Exchange.strikes]
  | ensured _ _ reply tolerated seeding =>
    have unstruck := unstruck_of_tolerated database collection tolerated
    have found : Exchange.strikes ⟨.findMarker database collection, .ok none⟩ = none := rfl
    cases seeding <;> simp [unstruck, found]

theorem struck (dialogue : MarkerDialogue database collection version stamp calls result)
    {exchange : Exchange Calls} {fault : Fault} (member : exchange ∈ calls)
    (strikes : exchange.strikes = some fault) :
    result = .error (.marker database collection fault.message) := by
  cases dialogue with
  | nameless | versionless => cases member
  | unseen _ _ replied =>
    obtain rfl := List.mem_singleton.1 member
    rw [Exchange.eq_of_strikes strikes]
  | present =>
    obtain rfl := List.mem_singleton.1 member
    cases strikes
  | unensured _ _ replied =>
    rcases List.mem_pair.1 member with rfl | rfl
    · cases strikes
    · rw [Exchange.eq_of_strikes strikes]
  | ensured _ _ reply tolerated seeding =>
    rcases List.mem_cons.1 member with rfl | later
    · cases strikes
    rcases List.mem_cons.1 later with rfl | last
    · rw [unstruck_of_tolerated database collection tolerated] at strikes
      cases strikes
    · exact seeding.struck last strikes

theorem failed {failure : Failure}
    (dialogue : MarkerDialogue database collection version stamp calls (.error failure)) :
    (∃ message, failure = .marker database collection message) ∧
      (collection = "" ∨ version = "" ∨ ∃ exchange ∈ calls, exchange.strikes ≠ none) := by
  cases dialogue with
  | nameless nameless => exact ⟨⟨_, rfl⟩, .inl nameless⟩
  | versionless _ versionless => exact ⟨⟨_, rfl⟩, .inr (.inl versionless)⟩
  | unseen => exact ⟨⟨_, rfl⟩, .inr (.inr ⟨_, .head _, nofun⟩)⟩
  | unensured _ _ fault other =>
    exact ⟨⟨_, rfl⟩, .inr (.inr ⟨_, .tail _ (.head _), Exchange.strikes_ne_none other⟩)⟩
  | ensured _ _ reply tolerated seeding =>
    cases seeding with
    | refused fault other =>
      exact ⟨⟨_, rfl⟩, .inr (.inr ⟨_, .tail _ (.tail _ (.head _)),
        Exchange.strikes_ne_none other⟩)⟩

theorem unnamed (dialogue : MarkerDialogue database collection version stamp calls result)
    (unnamed : collection = "" ∨ version = "") :
    ∃ message, result = .error (.marker database collection message) := by
  cases dialogue with
  | nameless | versionless => exact ⟨_, rfl⟩
  | unseen named versioned | present named versioned | unensured named versioned
  | ensured named versioned =>
    rcases unnamed with nameless | versionless
    · exact absurd nameless named
    · exact absurd versionless versioned

theorem call_of_asked (dialogue : MarkerDialogue database collection version stamp calls result)
    {call : Call} (asked : Asked calls call) :
    MarkerCall database collection (.fresh version stamp) call := by
  obtain ⟨exchange, member, rfl⟩ := List.mem_map.1 asked
  exact dialogue.call_of_mem member

theorem seeded_iff (dialogue : MarkerDialogue database collection version stamp calls result) :
    Answered calls (.insertMarker database collection (.fresh version stamp)) () ↔
      result = .ok .seeded := by
  cases dialogue with
  | nameless | versionless | unseen | present | unensured => simp [Answered]
  | ensured _ _ reply tolerated seeding => cases seeding <;> simp [Answered]

theorem alreadyPresent_iff
    (dialogue : MarkerDialogue database collection version stamp calls result) :
    ((∃ marker, Answered calls (.findMarker database collection) (some marker)) ∨
      Preceded calls (.insertMarker database collection (.fresh version stamp))) ↔
        result = .ok .alreadyPresent := by
  cases dialogue with
  | nameless | versionless | unseen | present | unensured => simp [Answered, Preceded]
  | ensured _ _ reply tolerated seeding => cases seeding <;> simp_all [Answered, Preceded]

theorem not_skipped (dialogue : MarkerDialogue database collection version stamp calls result) :
    result ≠ .ok .skipped := by
  cases dialogue with
  | nameless | versionless | unseen | present | unensured => simp
  | ensured _ _ reply tolerated seeding => cases seeding <;> simp

end MarkerDialogue

namespace PlanDialogue

variable {result : Except Failure MarkerOutcome}

theorem ops_prefix (dialogue : PlanDialogue request calls result) :
    calls.map Exchange.op <+: request.planScript := by
  cases dialogue with
  | skipped => exact List.nil_prefix
  | seeding plan dialogue =>
    unfold Request.planScript
    rw [plan]
    exact dialogue.ops_prefix

theorem call_of_asked (dialogue : PlanDialogue request calls result) {call : Call}
    (asked : Asked calls call) : ∃ collection version, request.plan = .seed collection version ∧
      MarkerCall request.target collection (.fresh version request.stamp) call := by
  cases dialogue with
  | skipped => cases asked
  | seeding plan dialogue => exact ⟨_, _, plan, dialogue.call_of_asked asked⟩

theorem looking (dialogue : PlanDialogue request calls result) (database collection : String) :
    Asked calls (.findMarker database collection) ↔ database = request.target ∧
      ∃ version, request.plan = .seed collection version ∧ collection ≠ "" ∧ version ≠ "" := by
  cases dialogue with
  | skipped plan => simp [Asked, plan]
  | @seeding planned version plan _ _ dialogue =>
    constructor
    · intro asked
      cases dialogue.call_of_asked asked
      exact ⟨rfl, version, plan, dialogue.looking.1 asked⟩
    · rintro ⟨rfl, again, same, named, versioned⟩
      obtain ⟨rfl, rfl⟩ := MarkerPlan.seed.inj (plan.symm.trans same)
      exact dialogue.looking.2 ⟨named, versioned⟩

theorem ensuring (dialogue : PlanDialogue request calls result) (database collection : String) :
    Asked calls (.ensureCollection database collection) ↔
      Answered calls (.findMarker database collection) none := by
  cases dialogue with
  | skipped => simp [Asked, Answered]
  | seeding plan dialogue =>
    constructor
    · intro asked
      cases dialogue.call_of_asked asked
      exact dialogue.ensuring.1 asked
    · intro answered
      cases dialogue.call_of_asked answered.asked
      exact dialogue.ensuring.2 answered

theorem inserting (dialogue : PlanDialogue request calls result) (database collection : String) :
    (∃ marker, Asked calls (.insertMarker database collection marker)) ↔
      Answered calls (.ensureCollection database collection) () ∨
        Preceded calls (.ensureCollection database collection) := by
  cases dialogue with
  | skipped => simp [Asked, Answered, Preceded]
  | seeding plan dialogue =>
    constructor
    · rintro ⟨marker, asked⟩
      cases dialogue.call_of_asked asked
      exact dialogue.inserting.1 asked
    · intro ensured
      have asked : Asked calls (.ensureCollection database collection) :=
        ensured.elim Answered.asked Preceded.asked
      cases dialogue.call_of_asked asked
      exact ⟨_, dialogue.inserting.2 ensured⟩

theorem ended_iff (dialogue : PlanDialogue request calls result) (outcome : MarkerOutcome) :
    MarkerEnded calls request outcome ↔ result = .ok outcome := by
  cases dialogue with
  | skipped plan => cases outcome <;> simp [MarkerEnded, plan]
  | seeding plan dialogue =>
    cases outcome with
    | skipped => simp [MarkerEnded, plan, dialogue.not_skipped]
    | seeded => simp [MarkerEnded, plan, ← dialogue.seeded_iff]
    | alreadyPresent => simp [MarkerEnded, plan, ← dialogue.alreadyPresent_iff]

theorem stops (dialogue : PlanDialogue request calls result) :
    ∀ exchange ∈ calls.dropLast, exchange.strikes = none := by
  cases dialogue with
  | skipped => simp
  | seeding plan dialogue => exact dialogue.stops

theorem struck (dialogue : PlanDialogue request calls result) {exchange : Exchange Calls}
    {fault : Fault} (member : exchange ∈ calls) (strikes : exchange.strikes = some fault) :
    result = .error (request.failureAt fault exchange.op) := by
  cases dialogue with
  | skipped => cases member
  | seeding plan dialogue =>
    rw [dialogue.struck member strikes]
    cases exchange with
    | mk call reply => cases dialogue.call_of_mem member <;> rfl

theorem failed {failure : Failure} (dialogue : PlanDialogue request calls (.error failure)) :
    ∃ database collection message, failure = .marker database collection message := by
  cases dialogue with
  | seeding plan dialogue =>
    obtain ⟨⟨message, same⟩, -⟩ := dialogue.failed
    exact ⟨_, _, message, same⟩

theorem failed_iff (dialogue : PlanDialogue request calls result) :
    (∃ failure, result = .error failure) ↔
      ∃ collection version, request.plan = .seed collection version ∧
        (collection = "" ∨ version = "" ∨ ∃ exchange ∈ calls,
          MarkerCall request.target collection (.fresh version request.stamp) exchange.op ∧
            exchange.strikes ≠ none) := by
  cases dialogue with
  | skipped plan => simp [plan]
  | @seeding collection version plan _ _ dialogue =>
    constructor
    · rintro ⟨failure, rfl⟩
      refine ⟨collection, version, plan, ?_⟩
      rcases dialogue.failed.2 with nameless | versionless | ⟨exchange, member, strikes⟩
      · exact .inl nameless
      · exact .inr (.inl versionless)
      · exact .inr (.inr ⟨exchange, member, dialogue.call_of_mem member, strikes⟩)
    · rintro ⟨other, again, same, cause⟩
      obtain ⟨rfl, rfl⟩ := MarkerPlan.seed.inj (plan.symm.trans same)
      rcases cause with nameless | versionless | ⟨exchange, member, -, strikes⟩
      · obtain ⟨message, failed⟩ := dialogue.unnamed (.inl nameless)
        exact ⟨_, failed⟩
      · obtain ⟨message, failed⟩ := dialogue.unnamed (.inr versionless)
        exact ⟨_, failed⟩
      · obtain ⟨fault, struck⟩ := Option.ne_none_iff_exists'.1 strikes
        exact ⟨_, dialogue.struck member struck⟩

end PlanDialogue

end

end Provision
