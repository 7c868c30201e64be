import Provision.Proofs.Asked
import Provision.Proofs.Authorship
/-!
Provisioning runs that race on one cluster.

Each run is followed from operation to operation while the others move the cluster: its look-ups may
be out of date by the time it writes, but whatever it reports is true of the cluster in the end, and
what it reports to have added carries its name in the ledger.
-/

namespace Provision.Cluster

open Ledger

/-- Success in a race: what is claimed of a value that was reached, and that one is reached if the
run is able. -/
def Settles {α : Type} (able : Prop) (claim : α → Ledger → Prop) (result : Except Failure α)
    (ledger : Ledger) : Prop :=
  (∀ value, result = .ok value → claim value ledger) ∧ (able → ∃ value, result = .ok value)

theorem Settles.ok {α : Type} {able : Prop} {claim : α → Ledger → Prop} {value : α}
    {ledger : Ledger} (claimed : claim value ledger) : Settles able claim (.ok value) ledger := by
  refine ⟨?_, fun _ => ⟨value, rfl⟩⟩
  intro other same
  obtain rfl := Except.ok.inj same
  exact claimed

theorem Settles.error {α : Type} {able : Prop} {claim : α → Ledger → Prop} {failure : Failure}
    {ledger : Ledger} (unable : ¬able) : Settles able claim (.error failure) ledger :=
  ⟨by simp, fun can => absurd can unable⟩

theorem Settles.kept {α : Type} {able : Prop} {claim : α → Ledger → Prop}
    {result : Except Failure α} {ledger later : Ledger} (settles : Settles able claim result ledger)
    (keeps : ∀ value, claim value ledger → claim value later) :
    Settles able claim result later :=
  ⟨fun value same => keeps value (settles.1 value same), settles.2⟩

variable {cluster after : Cluster} {session : Session} {racers place : Nat} {able : Prop}
variable {ledger later : Ledger}

/-- A permitted call whose roles are known is answered well, or told that what it adds is there. -/
theorem answer_well {call : Call} (permits : cluster.Permits session call)
    (known : ∀ account, call = .createUser account → unknownRole account.grants = none) :
    (∃ value after, cluster.answer session call = (.ok value, after)) ∨
      ∃ fault, cluster.answer session call = (.error fault, cluster) ∧
        fault.isAlreadyExists = true ∧ call.adds ≠ none := by
  rw [answer_of_permits permits]
  cases call with
  | userExists | findMarker | serverVersion | listCollections => exact .inl ⟨_, _, rfl⟩
  | createUser account =>
    simp only [execute, createUser_eq, known account rfl]
    cases cluster.holds (.user account.key) with
    | true => exact .inr ⟨_, rfl, rfl, by simp [Call.adds]⟩
    | false => exact .inl ⟨(), _, rfl⟩
  | ensureCollection database collection =>
    simp only [execute, createCollection_eq]
    cases cluster.holds (.collection (database, collection)) with
    | true => exact .inr ⟨_, rfl, rfl, by simp [Call.adds]⟩
    | false => exact .inl ⟨(), _, rfl⟩
  | insertMarker database collection marker =>
    simp only [execute, insertMarker_eq]
    cases cluster.holds (.marker (database, collection)) with
    | true => exact .inr ⟨_, rfl, rfl, by simp [Call.adds]⟩
    | false => exact .inl ⟨(), _, rfl⟩

theorem alreadyExists_of_permits {call : Call} {fault : Fault}
    (permits : cluster.Permits session call)
    (answered : cluster.answer session call = (.error fault, after))
    (known : ∀ account, call = .createUser account → unknownRole account.grants = none) :
    fault.isAlreadyExists = true ∧ call.adds ≠ none := by
  rcases answer_well permits known with ⟨value, last, well⟩ | ⟨other, same, already⟩
  · simp [answered] at well
  · simp only [answered, Prod.mk.injEq, Except.error.injEq] at same
    rwa [same.1]

theorem unable_of_error {call : Call} {fault : Fault} {privilege : Privilege} {database : String}
    (faultless : cluster.Faultless) (needs : call.needs = some (privilege, database))
    (answered : cluster.answer session call = (.error fault, after))
    (failed : call.adds = none ∨ fault.isAlreadyExists = false)
    (capable : able → session.holds privilege database = true ∧
      ∀ account, call = .createUser account → unknownRole account.grants = none) : ¬able := by
  intro can
  obtain ⟨held, known⟩ := capable can
  have permits : cluster.Permits session call := .of_holds faultless needs held
  obtain ⟨already, adds⟩ := alreadyExists_of_permits permits answered known
  rcases failed with reads | other
  · exact adds reads
  · rw [other] at already
    cases already

theorem holds_of_alreadyExists {call : Call} {fault : Fault} (faultless : cluster.Faultless)
    (answered : cluster.answer session call = (.error fault, after))
    (already : fault.isAlreadyExists = true) :
    ∃ item, call.adds = some item ∧ cluster.holds item = true := by
  obtain ⟨-, pretends | ⟨-, there⟩⟩ := answer_alreadyExists answered already
  · exact absurd pretends (faultless.not_pretends _)
  · exact there

section

variable {call : Call} {privilege : Privilege} {database : String} {α : Type}
variable {post : Except Failure α → Ledger → Prop}
variable {next : Except Fault call.Answer → Program Calls (Except Failure α)}

theorem read_respects (inside : place < racers) (faultless : ledger.cluster.Faultless)
    (reads : call.adds = none) (needs : call.needs = some (privilege, database))
    (capable : able → session.holds privilege database = true)
    (answered : ∀ asking value after, (contract racers place).rely ledger asking →
      asking.cluster.answer session call = (.ok value, after) →
        (next (.ok value)).Respects (callsOn (Ledger.act place) session) (contract racers place)
          post asking)
    (failed : ∀ asking fault, ¬able →
      (next (.error fault)).Respects (callsOn (Ledger.act place) session) (contract racers place)
        post asking) :
    (Program.perform call next).Respects (callsOn (Ledger.act place) session)
      (contract racers place) post ledger := by
  intro asking moved
  refine ⟨inside, ?_⟩
  have still : asking.cluster.Faultless := moved.1.faults.trans faultless
  cases asked : asking.cluster.answer session call with
  | mk reply after =>
  cases reply with
  | ok value =>
    rw [callsOn_read reads asked]
    exact answered asking value after moved asked
  | error fault =>
    rw [callsOn_error asked]
    apply failed
    apply unable_of_error still needs asked (.inl reads)
    intro can
    refine ⟨capable can, ?_⟩
    rintro account rfl
    cases reads

/-- A write adds its item under the name of the run or is told that it is there, or else the run was
not able. -/
theorem write_respects {item : Item} (inside : place < racers)
    (faultless : ledger.cluster.Faultless) (adds : call.adds = some item)
    (needs : call.needs = some (privilege, database))
    (capable : able → session.holds privilege database = true ∧
      ∀ account, call = .createUser account → unknownRole account.grants = none)
    (written : ∀ asking value after, (contract racers place).rely ledger asking →
      Written asking.cluster call after →
        (next (.ok value)).Respects (callsOn (Ledger.act place) session) (contract racers place)
          post ⟨after, fun other => if item = other then some place else asking.author other⟩)
    (there : ∀ asking fault, (contract racers place).rely ledger asking →
      fault.isAlreadyExists = true → asking.cluster.holds item = true →
        (next (.error fault)).Respects (callsOn (Ledger.act place) session)
          (contract racers place) post asking)
    (failed : ∀ asking fault, fault.isAlreadyExists = false → ¬able →
      (next (.error fault)).Respects (callsOn (Ledger.act place) session) (contract racers place)
        post asking) :
    (Program.perform call next).Respects (callsOn (Ledger.act place) session)
      (contract racers place) post ledger := by
  intro asking moved
  refine ⟨inside, ?_⟩
  have still : asking.cluster.Faultless := moved.1.faults.trans faultless
  cases asked : asking.cluster.answer session call with
  | mk reply after =>
  cases reply with
  | ok value =>
    rw [callsOn_written adds asked]
    exact written asking value after moved (answer_written adds asked).2
  | error fault =>
    rw [callsOn_error asked]
    cases already : fault.isAlreadyExists with
    | true =>
      obtain ⟨added, same, held⟩ := holds_of_alreadyExists still asked already
      obtain rfl := Option.some.inj (adds.symm.trans same)
      exact there asking fault moved already held
    | false =>
      apply failed asking fault already
      exact unable_of_error still needs asked (.inr already) capable

end

structure UserClaim (account : Account) (place : Nat) (outcome : UserOutcome) (ledger : Ledger) :
    Prop where
  stored : ledger.cluster.holds (.user account.key) = true
  own : outcome = .created → ledger.cluster.users.find? account.key = some account.user
  author : ledger.author (.user account.key) = some place ↔ outcome = .created

section

variable {account : Account}

theorem UserClaim.kept {outcome : UserOutcome} (claim : UserClaim account place outcome ledger)
    (evolves : Evolves ledger.cluster later.cluster)
    (named : later.author (.user account.key) = some place ↔
      ledger.author (.user account.key) = some place) :
    UserClaim account place outcome later where
  stored := evolves.toGrows.holds claim.stored
  own := fun created => evolves.toGrows.users _ _ (claim.own created)
  author := named.trans claim.author

theorem UserClaim.of_there (there : ledger.cluster.holds (.user account.key) = true)
    (unnamed : ledger.author (.user account.key) ≠ some place) :
    UserClaim account place .alreadyPresent ledger :=
  ⟨there, by simp, by simp [unnamed]⟩

theorem UserClaim.of_written (written : Written cluster (.createUser account) after)
    (author : Item → Option Nat) :
    UserClaim account place .created
      ⟨after, fun other => if Item.user account.key = other then some place else author other⟩ := by
  cases written with
  | user =>
    constructor
    · simp [holds, hasUser, Table.contains, Table.find?_insert]
    · simp [Table.find?_insert]
    · simp

theorem ensureUser_respects (inside : place < racers) (faultless : ledger.cluster.Faultless)
    (fresh : ledger.author (.user account.key) ≠ some place)
    (capable : able → session.holds .manageUsers account.database = true ∧
      (ledger.cluster.holds (.user account.key) = false → unknownRole account.grants = none)) :
    (ensureUser account).Respects (callsOn (Ledger.act place) session) (contract racers place)
      (Settles able (UserClaim account place)) ledger := by
  apply read_respects inside faultless rfl rfl fun can => (capable can).1
  case answered =>
    intro asking found _ moved asked
    have unnamed : asking.author (.user account.key) ≠ some place :=
      fun entry => fresh ((moved.2 _).1 entry)
    have same : asking.cluster.holds (.user account.key) = found :=
      Except.ok.inj (Prod.mk.inj (answer_ok asked).2).1
    cases found with
    | true =>
      intro last rest
      exact .ok ((UserClaim.of_there same unnamed).kept rest.1 (rest.2 _))
    | false =>
      apply write_respects inside (moved.1.faults.trans faultless) rfl rfl
      case capable =>
        intro can
        refine ⟨(capable can).1, ?_⟩
        rintro _ ⟨⟩
        exact (capable can).2 (moved.1.toGrows.absent same)
      case written =>
        intro creating _ after _ written last rest
        exact .ok ((UserClaim.of_written written creating.author).kept rest.1 (rest.2 _))
      case there =>
        intro creating fault next already there
        have unnamedStill : creating.author (.user account.key) ≠ some place :=
          fun entry => unnamed ((next.2 _).1 entry)
        simp only [already, ↓reduceIte]
        intro last rest
        exact .ok ((UserClaim.of_there there unnamedStill).kept rest.1 (rest.2 _))
      case failed =>
        intro creating fault other unable
        simp only [other, Bool.false_eq_true, ↓reduceIte]
        intro last _
        exact .error unable
  case failed =>
    intro asking fault unable last _
    exact .error unable

end

structure MarkerClaim (database collection : String) (marker : Marker) (place : Nat)
    (outcome : MarkerOutcome) (ledger : Ledger) : Prop where
  documented : ledger.cluster.records database collection ≠ []
  own : outcome = .seeded →
    ledger.cluster.records database collection = [⟨Marker.identifier, marker⟩]
  author : ledger.author (.marker (database, collection)) = some place ↔ outcome = .seeded
  done : outcome ≠ .skipped

section

variable {database collection : String} {marker : Marker}

theorem MarkerClaim.kept {outcome : MarkerOutcome}
    (claim : MarkerClaim database collection marker place outcome ledger)
    (moved : (contract racers place).rely ledger later) :
    MarkerClaim database collection marker place outcome later where
  documented := moved.1.toGrows.records_ne_nil claim.documented
  own := by
    intro seeded
    have records := claim.own seeded
    rcases moved.1.seeded database collection with same | ⟨absent, -⟩
    · exact same.trans records
    · simp [holds, records] at absent
  author := (moved.2 _).trans claim.author
  done := claim.done

theorem MarkerClaim.of_documented (documented : ledger.cluster.records database collection ≠ [])
    (unnamed : ledger.author (.marker (database, collection)) ≠ some place) :
    MarkerClaim database collection marker place .alreadyPresent ledger :=
  ⟨documented, by simp, by simp [unnamed], by simp⟩

theorem MarkerClaim.of_written (empty : cluster.records database collection = [])
    (written : Written cluster (.insertMarker database collection marker) after)
    (author : Item → Option Nat) :
    MarkerClaim database collection marker place .seeded ⟨after, fun other =>
      if Item.marker (database, collection) = other then some place else author other⟩ := by
  cases written with
  | marker =>
    have added := records_append cluster database collection ⟨Marker.identifier, marker⟩
    rw [empty] at added
    constructor
    · rw [added]
      simp
    · exact fun _ => added
    · simp
    · simp

theorem Evolves.still_empty {before : Cluster} (evolves : Evolves before after)
    (empty : before.records database collection = [])
    (absent : after.holds (.marker (database, collection)) = false) :
    after.records database collection = [] := by
  rcases evolves.seeded database collection with same | ⟨-, marker, added⟩
  · exact same.trans empty
  · simp [holds, added] at absent

theorem seedMarker_respects {seen : Cluster} (inside : place < racers)
    (faultless : ledger.cluster.Faultless)
    (fresh : ledger.author (.marker (database, collection)) ≠ some place)
    (empty : seen.records database collection = []) (evolves : Evolves seen ledger.cluster)
    (capable : able → session.holds .write database = true) :
    (seedMarker database collection marker).Respects (callsOn (Ledger.act place) session)
      (contract racers place) (Settles able (MarkerClaim database collection marker place))
      ledger := by
  apply write_respects inside faultless rfl rfl
  case capable => exact fun can => ⟨capable can, by simp⟩
  case written =>
    intro inserting _ after moved written last rest
    have bare : inserting.cluster.records database collection = [] := by
      cases written with
      | marker absent => exact (evolves.trans moved.1).still_empty empty absent
    exact .ok ((MarkerClaim.of_written bare written inserting.author).kept rest)
  case there =>
    intro inserting fault moved already there
    have unnamed : inserting.author (.marker (database, collection)) ≠ some place :=
      fun entry => fresh ((moved.2 _).1 entry)
    have documented : inserting.cluster.records database collection ≠ [] := by
      intro none
      rw [holds_marker_of_empty none] at there
      cases there
    simp only [already, ↓reduceIte]
    intro last rest
    exact .ok ((MarkerClaim.of_documented documented unnamed).kept rest)
  case failed =>
    intro inserting fault other unable
    simp only [other, Bool.false_eq_true, ↓reduceIte]
    intro last _
    exact .error unable

theorem ensureMarker_respects {version : String} {stamp : Int64} (named : collection ≠ "")
    (versioned : version ≠ "") (inside : place < racers) (faultless : ledger.cluster.Faultless)
    (fresh : ledger.author (.marker (database, collection)) ≠ some place)
    (capable : able → session.holds .read database = true ∧
      (ledger.cluster.records database collection = [] → session.holds .write database = true)) :
    (ensureMarker database collection version stamp).Respects (callsOn (Ledger.act place) session)
      (contract racers place)
      (Settles able (MarkerClaim database collection (.fresh version stamp) place)) ledger := by
  rw [ensureMarker_of_named stamp named versioned]
  apply read_respects inside faultless rfl rfl fun can => (capable can).1
  case answered =>
    intro asking found _ moved asked
    have unnamed : asking.author (.marker (database, collection)) ≠ some place :=
      fun entry => fresh ((moved.2 _).1 entry)
    have same : (asking.cluster.documents database collection).head? = found :=
      Except.ok.inj (Prod.mk.inj (answer_ok asked).2).1
    cases found with
    | some marker =>
      have documented : asking.cluster.records database collection ≠ [] := by
        intro none
        simp [documents, none] at same
      intro last rest
      exact .ok ((MarkerClaim.of_documented documented unnamed).kept rest)
    | none =>
      have empty : asking.cluster.records database collection = [] := by
        simpa [documents] using same
      have writes : able → session.holds .write database = true := by
        intro can
        exact (capable can).2 (moved.1.toGrows.records_eq_nil empty)
      have quiet : asking.cluster.Faultless := moved.1.faults.trans faultless
      apply write_respects inside quiet rfl rfl
      case capable => exact fun can => ⟨writes can, by simp⟩
      case written =>
        intro ensuring _ after next written
        have evolves : Evolves ensuring.cluster after := written.evolves
        have unnamedStill : ensuring.author (.marker (database, collection)) ≠ some place :=
          fun entry => unnamed ((next.2 _).1 entry)
        exact seedMarker_respects inside (evolves.faults.trans (next.1.faults.trans quiet))
          (by simpa using unnamedStill) empty (next.1.trans evolves) writes
      case there =>
        intro ensuring fault next already _
        have unnamedStill : ensuring.author (.marker (database, collection)) ≠ some place :=
          fun entry => unnamed ((next.2 _).1 entry)
        simp only [already, ↓reduceIte]
        exact seedMarker_respects inside (next.1.faults.trans quiet) unnamedStill empty next.1
          writes
      case failed =>
        intro ensuring fault other unable
        simp only [other, Bool.false_eq_true, ↓reduceIte]
        intro last _
        exact .error unable
  case failed =>
    intro asking fault unable last _
    exact .error unable

end

theorem frame_respects (session : Session) {α : Type} {body : Program Calls α}
    {item : Key → Item} {base : Ledger}
    (asks : body.Asks fun call : Call => ∀ key, call.adds ≠ some (item key))
    (inside : place < racers) (evolves : Evolves base.cluster ledger.cluster)
    (named : ∀ key, ledger.author (item key) = some place ↔
      base.author (item key) = some place) :
    body.Respects (callsOn (Ledger.act place) session) (contract racers place)
      (fun _ last => Evolves base.cluster last.cluster ∧
        ∀ key, last.author (item key) = some place ↔ base.author (item key) = some place)
      ledger := by
  induction body generalizing ledger with
  | done value =>
    intro last moved
    exact ⟨evolves.trans moved.1, fun key => (moved.2 _).trans (named key)⟩
  | emit event rest ih => exact ih asks evolves named
  | perform call next ih =>
    obtain ⟨never, rest⟩ := asks
    intro later moved
    refine ⟨inside, ih _ (rest _) ?_ ?_⟩
    · exact (evolves.trans moved.1).trans (handler_evolves later.cluster (.call session call))
    · intro key
      have unadded : added (.call session call)
          (handler (.call session call) later.cluster).1 ≠ some (item key) := by
        intro adds
        cases reply : (handler (.call session call) later.cluster).1 with
        | error fault => simp [added, reply] at adds
        | ok value =>
          rw [reply] at adds
          exact never key adds
      simp only [callsOn, Ledger.act, if_neg unadded]
      exact (moved.2 _).trans (named key)

def PlanClaim (target : String) (plan : MarkerPlan) (stamp : Int64) (place : Nat)
    (outcome : MarkerOutcome) (ledger : Ledger) : Prop :=
  match plan with
  | .skip => outcome = .skipped
  | .seed collection version =>
    MarkerClaim target collection (.fresh version stamp) place outcome ledger

theorem PlanClaim.kept {target : String} {plan : MarkerPlan} {stamp : Int64}
    {outcome : MarkerOutcome} (claim : PlanClaim target plan stamp place outcome ledger)
    (moved : (contract racers place).rely ledger later) :
    PlanClaim target plan stamp place outcome later := by
  cases plan with
  | skip => exact claim
  | seed collection version =>
    have marked : MarkerClaim target collection (.fresh version stamp) place outcome ledger :=
      claim
    exact marked.kept moved

theorem applyPlan_respects (session : Session) {target : String} {plan : MarkerPlan}
    (stamp : Int64) (inside : place < racers) (faultless : ledger.cluster.Faultless)
    (fresh : ∀ key, ledger.author (.marker key) ≠ some place)
    (capable : able → ∀ collection version, plan = .seed collection version →
      collection ≠ "" ∧ version ≠ "" ∧ session.holds .read target = true ∧
        (ledger.cluster.records target collection = [] → session.holds .write target = true)) :
    (applyPlan target plan stamp).Respects (callsOn (Ledger.act place) session)
      (contract racers place) (Settles able (PlanClaim target plan stamp place)) ledger := by
  cases plan with
  | skip =>
    intro last _
    exact .ok rfl
  | seed collection version =>
    by_cases named : collection = ""
    · subst named
      intro last _
      exact .error fun can => (capable can "" version rfl).1 rfl
    by_cases versioned : version = ""
    · subst versioned
      have refused : ensureMarker target collection "" stamp =
          .done (.error (.marker target collection "marker version must not be empty")) := by
        simp [ensureMarker, named]
      rw [applyPlan, refused]
      intro last _
      exact .error fun can => (capable can collection "" rfl).2.1 rfl
    exact ensureMarker_respects named versioned inside faultless (fresh _) fun can =>
      (capable can collection version rfl).2.2

structure RunClaim (request : Request) (place : Nat) (report : Report) (ledger : Ledger) :
    Prop where
  user : UserClaim request.account place report.user ledger
  marker : PlanClaim request.target request.plan request.stamp place report.marker ledger

theorem ensureUser_markerless (account : Account) :
    (ensureUser account).Asks fun call : Call => ∀ key, call.adds ≠ some (.marker key) := by
  apply (ensureUser_asks account).mono
  rintro call (_ | _) <;> simp [Call.adds]

theorem applyPlan_userless (target : String) (plan : MarkerPlan) (stamp : Int64) :
    (applyPlan target plan stamp).Asks fun call : Call => ∀ key, call.adds ≠ some (.user key) := by
  apply (applyPlan_asks stamp target plan).mono
  rintro call ⟨collection, version, -, _ | _ | _⟩ <;> simp [Call.adds]

theorem rest_respects {request : Request} {user : UserOutcome} (inside : place < racers)
    (faultless : ledger.cluster.Faultless) (fresh : ∀ key, ledger.author (.marker key) ≠ some place)
    (claim : UserClaim request.account place user ledger)
    (capable : able → ∀ collection version, request.plan = .seed collection version →
      collection ≠ "" ∧ version ≠ "" ∧ session.holds .read request.target = true ∧
        (ledger.cluster.records request.target collection = [] →
          session.holds .write request.target = true)) :
    ((applyPlan request.target request.plan request.stamp).bind fun
      | .error failure => .done (.error failure)
      | .ok marker => .done (.ok ⟨user, marker⟩)).Respects (callsOn (Ledger.act place) session)
        (contract racers place) (Settles able (RunClaim request place)) ledger := by
  have planned := applyPlan_respects session request.stamp inside faultless fresh capable
  have userless := applyPlan_userless request.target request.plan request.stamp
  have framed := frame_respects session userless inside (.refl ledger.cluster) fun _ => .rfl
  refine Program.Respects.bind ((planned.and framed).weaken ?_)
  rintro outcome final ⟨⟨marked, told⟩, evolves, kept⟩
  cases outcome with
  | error failure =>
    intro last _
    apply Settles.error
    intro can
    obtain ⟨marker, same⟩ := told can
    cases same
  | ok marker =>
    intro last moved
    apply Settles.ok
    constructor
    case user =>
      apply claim.kept
      · exact evolves.trans moved.1
      · exact (moved.2 _).trans (kept _)
    case marker => exact PlanClaim.kept (marked marker rfl) moved

theorem body_respects {request : Request} (inside : place < racers)
    (faultless : ledger.cluster.Faultless) (fresh : ∀ item, ledger.author item ≠ some place)
    (capable : able → ∃ admin, ledger.cluster.Admits request admin ∧ session = admin.grants) :
    request.body.Respects (callsOn (Ledger.act place) session) (contract racers place)
      (Settles able (RunClaim request place)) ledger := by
  cases accepted : request.account.check request.target with
  | error failure =>
    simp only [Request.body, accepted]
    intro last _
    apply Settles.error
    intro can
    obtain ⟨admin, admits, -⟩ := capable can
    rw [admits.accepted] at accepted
    cases accepted
  | ok value =>
    simp only [Request.body, accepted]
    have manageable : able → session.holds .manageUsers request.account.database = true ∧
        (ledger.cluster.holds (.user request.account.key) = false →
          unknownRole request.account.grants = none) := by
      intro can
      obtain ⟨admin, admits, rfl⟩ := capable can
      rw [Account.database_of_check accepted]
      exact ⟨admits.manages, admits.known⟩
    have ensured := ensureUser_respects inside faultless (fresh _) manageable
    have markerless := ensureUser_markerless request.account
    have framed := frame_respects session markerless inside (.refl ledger.cluster) fun _ => .rfl
    refine Program.Respects.bind ((ensured.and framed).weaken ?_)
    rintro result middle ⟨⟨claimed, reached⟩, evolves, named⟩
    cases result with
    | error failure =>
      intro last _
      apply Settles.error
      intro can
      obtain ⟨outcome, same⟩ := reached can
      cases same
    | ok user =>
      apply rest_respects inside (evolves.faults.trans faultless)
      case fresh => exact fun key entry => fresh _ ((named key).1 entry)
      case claim => exact claimed user rfl
      case capable =>
        intro can collection version plan
        obtain ⟨admin, admits, rfl⟩ := capable can
        obtain ⟨first, second, reads, writes⟩ := admits.planned collection version plan
        exact ⟨first, second, reads, fun empty => writes (evolves.toGrows.records_eq_nil empty)⟩

theorem RunClaim.kept {request : Request} {report : Report}
    (claim : RunClaim request place report ledger)
    (moved : (contract racers place).rely ledger later) :
    RunClaim request place report later where
  user := claim.user.kept moved.1 (moved.2 _)
  marker := claim.marker.kept moved

/-- A run that races from a start, and that succeeds if the start admits it. -/
theorem provision_respects {start : Cluster} (request : Request) (inside : place < racers)
    (faultless : start.Faultless) :
    request.provision.Respects (Ledger.act place) (contract racers place)
      (Settles (∃ admin, start.Admits request admin) (RunClaim request place)) (blank start) := by
  refine Request.provision_respects (fun _ _ => inside) ?_ ?_
  · intro later fault after moved refused last _
    apply Settles.error
    rintro ⟨admin, admits⟩
    have stored := moved.1.toGrows.users _ _ admits.stored
    have opens : later.cluster.openSession request.scope request.admin = (.ok _, _) :=
      openSession_ok.2 ⟨admin, stored, admits.password, rfl, rfl⟩
    simp only [Ledger.act, handler, opens] at refused
    cases (Prod.mk.inj refused).1
  · intro later session after moved opened
    obtain rfl : (Ledger.act place (.openSession request.scope request.admin) later).2 = after :=
      congrArg Prod.snd opened
    have entered : (contract racers place).rely (blank start)
        (Ledger.act place (.openSession request.scope request.admin) later).2 :=
      (contract racers place).trans _ _ _ moved (rely_act_of_unadded (by rfl))
    have fresh : ∀ item,
        (Ledger.act place (.openSession request.scope request.admin) later).2.author item ≠
          some place := by
      intro item entry
      have written := (entered.2 item).1 entry
      simp [blank] at written
    have capable : (∃ admin, start.Admits request admin) → ∃ admin,
        (Ledger.act place (.openSession request.scope request.admin) later).2.cluster.Admits request
          admin ∧ session = admin.grants := by
      rintro ⟨admin, admits⟩
      refine ⟨admin, admits.kept entered.1.toGrows, ?_⟩
      have answered : later.cluster.openSession request.scope request.admin =
          (.ok session, (later.cluster.openSession request.scope request.admin).2) :=
        Prod.ext (Prod.mk.inj opened).1 rfl
      obtain ⟨user, found, -, rfl, -⟩ := openSession_ok.1 answered
      have stored := moved.1.toGrows.users _ _ admits.stored
      rw [Option.some.inj (found.symm.trans stored)]
    refine (body_respects inside (entered.1.faults.trans faultless) fresh capable).weaken ?_
    intro result middle settles closing reached
    refine ⟨inside, fun last rest => settles.kept fun report claim => ?_⟩
    have closed : (contract racers place).rely closing last :=
      (contract racers place).trans _ (Ledger.act place (.close session) closing).2 _
        (rely_act_of_unadded (by rfl)) rest
    exact (claim.kept reached).kept closed

end Provision.Cluster
