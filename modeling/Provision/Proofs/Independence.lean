import Mathlib
import Provision.Proofs.Asked
import Provision.Proofs.Concern
import Provision.Proofs.Merge
import Provision.Proofs.Shadow
import Provision.Proofs.Winners
/-!
Provisioning runs that have nothing to do with each other.

A run looks at its administrator, its account and its marker's collection, and writes only the
latter two. Two runs of which neither writes what the other one looks at end in every interleaving
as they do alone, and leave what each of them left, put together.
-/

namespace Provision

namespace Request

def login (request : Request) : Key :=
  (request.scope, request.admin.username)

theorem seeding_of_plan {request : Request} {collection version : String}
    (planned : request.plan = .seed collection version) :
    request.seeding = some (request.target, collection) := by
  rw [seeding, planned]

/-- Neither of two runs writes what the other one looks at. -/
structure Independent (first second : Request) : Prop where
  users : first.account.key ≠ second.account.key
  collections : ∀ key, first.seeding = some key → second.seeding ≠ some key
  firstLogin : second.account.key ≠ first.login
  secondLogin : first.account.key ≠ second.login

theorem Independent.symm {first second : Request} (independent : first.Independent second) :
    second.Independent first where
  users := independent.users.symm
  collections := fun key planned same => independent.collections key same planned
  firstLogin := independent.secondLogin
  secondLogin := independent.firstLogin

inductive Makes (request : Request) : Call → Prop
  | user {call : Call} (asked : UserCall request.account call) : Makes request call
  | marker {call : Call} {collection version : String}
      (planned : request.plan = .seed collection version)
      (asked : MarkerCall request.target collection (.fresh version request.stamp) call) :
      Makes request call

theorem body_asks (request : Request) : request.body.Asks request.Makes := by
  unfold body
  cases request.account.check request.target with
  | error failure => trivial
  | ok accepted =>
    refine ((ensureUser_asks request.account).mono fun _ => .user).bind ?_
    rintro (failure | user)
    · trivial
    · refine ((applyPlan_asks request.stamp request.target request.plan).mono ?_).bind ?_
      · rintro call ⟨collection, version, planned, asked⟩
        exact .marker planned asked
      · rintro (failure | marker) <;> trivial

end Request

theorem Program.Steps.on {S α σ : Type} {handler : Handler (Store S) σ} {session : S}
    {may : StoreOp S → σ → Prop} {body : Program Calls α} {state : σ}
    (steps : body.Steps (callsOn handler session) (fun call => may (.call session call)) state) :
    (body.on session).Steps handler may state := by
  induction body generalizing state with
  | done value => trivial
  | emit event rest ih => exact ih steps
  | perform call next ih => exact ⟨steps.1, ih _ steps.2⟩

namespace Cluster

/-- What a run does to a cluster. It closes a session only if it has opened one, so that more
sessions are open then than there were at its start. -/
inductive Performs (request : Request) (start : Cluster) : StoreOp Session → Cluster → Prop
  | openSession {cluster : Cluster} :
      Performs request start (.openSession request.scope request.admin) cluster
  | call {session : Session} {call : Call} {cluster : Cluster} (made : request.Makes call) :
      Performs request start (.call session call) cluster
  | close {session : Session} {cluster : Cluster}
      (opened : start.openSessions < cluster.openSessions) :
      Performs request start (.close session) cluster

structure Follows (request : Request) (start own : Cluster) : Prop where
  users : ∀ key, key ≠ request.account.key → own.users.find? key = start.users.find? key
  collections : ∀ key, request.seeding ≠ some key →
    own.collections.find? key = start.collections.find? key
  faults : own.faults = start.faults
  openSessions : start.openSessions ≤ own.openSessions

/-- The clusters that two runs have led to, each by itself and both together. -/
structure Beside (start : Cluster) (first second : Request) (one two shared : Cluster) : Prop where
  first : Follows first start one
  second : Follows second start two
  merged : Merged start one two shared

structure SeesAlike (request : Request) (own shared : Cluster) : Prop where
  login : shared.users.find? request.login = own.users.find? request.login
  user : shared.users.find? request.account.key = own.users.find? request.account.key
  collection : ∀ key, request.seeding = some key →
    shared.collections.find? key = own.collections.find? key
  faults : shared.faults = own.faults

variable {start own shared one two : Cluster}
variable {request first second : Request}
variable {session : Session} {call : Call}

/-! ### What a run performs -/

theorem body_steps (request : Request) (start own : Cluster) (session : Session) :
    (request.body.on session).Steps handler (Performs request start) own := by
  apply Program.Steps.on
  exact request.body_asks.steps (fun call state made => .call made) own

theorem on_openSessions {α : Type} (body : Program Calls α) (session : Session)
    (cluster : Cluster) :
    ((body.on session).run handler cluster).state.openSessions = cluster.openSessions := by
  rw [Program.run_on]
  induction body generalizing cluster with
  | done value => rfl
  | emit event rest ih => exact ih cluster
  | perform call next ih => exact (ih _ _).trans (answer_openSessions cluster session call)

theorem provision_steps (request : Request) (start : Cluster) :
    request.provision.Steps handler (Performs request start) start := by
  unfold Request.provision
  apply Program.Steps.bind
  refine ⟨.openSession, ?_⟩
  · cases answered : handler (.openSession request.scope request.admin) start with
    | mk reply after =>
      cases reply with
      | error fault => trivial
      | ok session =>
        obtain ⟨-, -, -, -, rfl⟩ := openSession_ok.1 answered
        refine (body_steps request start start.opened session).bind ⟨.close ?_, ?_⟩
        · rw [on_openSessions]
          exact Nat.lt_succ_self start.openSessions
        · dsimp only
          split <;> trivial
  · split <;> trivial

/-! ### What a run is told -/

theorem SeesAlike.sameFor (sees : SeesAlike request own shared) (made : request.Makes call) :
    SameFor own shared call := by
  cases made with
  | user asked => cases asked <;> exact sees.user
  | marker planned asked =>
    have same := sees.collection _ (Request.seeding_of_plan planned)
    cases asked <;> exact same

/-! ### Where two runs lead -/

namespace Beside

theorem refl (start : Cluster) (first second : Request) :
    Beside start first second start start start where
  first := ⟨fun _ _ => rfl, fun _ _ => rfl, rfl, le_rfl⟩
  second := ⟨fun _ _ => rfl, fun _ _ => rfl, rfl, le_rfl⟩
  merged := .refl start

theorem symm (beside : Beside start first second one two shared) :
    Beside start second first two one shared :=
  ⟨beside.second, beside.first, beside.merged.symm⟩

variable (independent : first.Independent second)
variable (beside : Beside start first second one two shared)
include independent beside

theorem seesAlike : SeesAlike first one shared where
  login := beside.merged.users.eq_first (beside.second.users _ independent.firstLogin.symm)
  user := beside.merged.users.eq_first (beside.second.users _ independent.users)
  collection key planned := beside.merged.collections.eq_first
    (beside.second.collections key (independent.collections key planned))
  faults := beside.merged.faults.trans beside.first.faults.symm

theorem insertUser (user : User) :
    Beside start first second
      { one with
        users := one.users.insert first.account.key user
        writes := one.writes + 1 }
      two
      { shared with
        users := shared.users.insert first.account.key user
        writes := shared.writes + 1 } where
  first := {
    beside.first with
    users := fun key elsewhere => by
      rw [Table.find?_insert, if_neg elsewhere.symm]
      exact beside.first.users key elsewhere }
  second := beside.second
  merged := {
    beside.merged with
    users := beside.merged.users.insert (beside.second.users _ independent.users) user
    writes := by
      have sum := beside.merged.writes
      simp only
      omega }

theorem insertCollection {key : Key} (planned : first.seeding = some key)
    (records : List Record) :
    Beside start first second
      { one with
        collections := one.collections.insert key records
        writes := one.writes + 1 }
      two
      { shared with
        collections := shared.collections.insert key records
        writes := shared.writes + 1 } where
  first := {
    beside.first with
    collections := fun other elsewhere => by
      have apart : key ≠ other := fun same => elsewhere (same ▸ planned)
      rw [Table.find?_insert, if_neg apart]
      exact beside.first.collections other elsewhere }
  second := beside.second
  merged := {
    beside.merged with
    collections := beside.merged.collections.insert
      (beside.second.collections key (independent.collections key planned)) records
    writes := by
      have sum := beside.merged.writes
      simp only
      omega }

theorem written {oneAfter sharedAfter : Cluster} (made : first.Makes call)
    (moves : Written one call oneAfter) (along : Written shared call sharedAfter) :
    Beside start first second oneAfter two sharedAfter := by
  cases made with
  | user asked =>
    cases asked with
    | look => cases moves
    | create =>
      cases moves
      cases along
      exact beside.insertUser independent first.account.user
  | marker planned asked =>
    have seeding := Request.seeding_of_plan planned
    cases asked with
    | look => cases moves
    | ensure =>
      cases moves
      cases along
      exact beside.insertCollection independent seeding []
    | insert =>
      cases moves
      cases along
      have same := records_eq_of_find? ((beside.seesAlike independent).collection _ seeding)
      simp only [append, wrote, same]
      exact beside.insertCollection independent seeding _

theorem answer (made : first.Makes call) (session : Session) :
    (shared.answer session call).1 = (one.answer session call).1 ∧
      Beside start first second (one.answer session call).2 two
        (shared.answer session call).2 := by
  have sees := beside.seesAlike independent
  obtain ⟨replies, moves⟩ := (sees.sameFor made).answer sees.faults session
  refine ⟨replies.symm, ?_⟩
  apply moves.keeps (fun own merged => Beside start first second own two merged) beside
  exact beside.written independent made

omit independent in
theorem loggedIn : Beside start first second one.opened two shared.opened where
  first := { beside.first with openSessions := Nat.le_succ_of_le beside.first.openSessions }
  second := beside.second
  merged := {
    beside.merged with
    openSessions := by
      have sum := beside.merged.openSessions
      simp only [opened]
      omega }

theorem openSession :
    (shared.openSession first.scope first.admin).1 = (one.openSession first.scope first.admin).1 ∧
      Beside start first second (one.openSession first.scope first.admin).2 two
        (shared.openSession first.scope first.admin).2 := by
  have same : shared.users.find? (first.scope, first.admin.username) =
      one.users.find? (first.scope, first.admin.username) := (beside.seesAlike independent).login
  unfold Cluster.openSession
  rw [same]
  cases one.users.find? (first.scope, first.admin.username) with
  | none => exact ⟨rfl, beside⟩
  | some user =>
    by_cases password : user.password = first.admin.password
    · simp only [password, if_true, true_and]
      exact beside.loggedIn
    · simp only [password, if_false, true_and]
      exact beside

omit independent in
theorem closed (opened : start.openSessions < one.openSessions) :
    Beside start first second { one with openSessions := one.openSessions - 1 } two
      { shared with openSessions := shared.openSessions - 1 } where
  first := { beside.first with openSessions := Nat.le_sub_one_of_lt opened }
  second := beside.second
  merged := {
    beside.merged with
    -- The other run has at least the sessions of the start, so one more is open than it has.
    openSessions := by
      have sum := beside.merged.openSessions
      have below := beside.second.openSessions
      simp only
      omega }

theorem close (opened : start.openSessions < one.openSessions) :
    shared.close.1 = one.close.1 ∧
      Beside start first second one.close.2 two shared.close.2 := by
  have same : shared.faults .close = one.faults .close :=
    congrFun (beside.seesAlike independent).faults .close
  unfold Cluster.close
  rw [same]
  cases one.faults .close with
  | some fault => exact ⟨rfl, beside.closed opened⟩
  | none => exact ⟨rfl, beside.closed opened⟩

/-- Whatever the first run performs, it is answered as if it were alone. -/
theorem handler {op : StoreOp Session} (performs : Performs first start op one) :
    (handler op shared).1 = (handler op one).1 ∧
      Beside start first second (handler op one).2 two (handler op shared).2 := by
  cases performs with
  | openSession => exact beside.openSession independent
  | call made => exact beside.answer independent made _
  | close opened => exact beside.close independent opened

end Beside

/-! ### Whole runs -/

def performsAt (start : Cluster) (first second : Request) : Nat → StoreOp Session → Cluster → Prop
  | 0 => Performs first start
  | 1 => Performs second start
  | _ => fun _ _ => False

theorem faithful (independent : first.Independent second) (start : Cluster) :
    Shadowed.Faithful handler
      (fun world => Beside start first second (world.own 0) (world.own 1) world.shared)
      (performsAt start first second) := by
  intro place op world beside performs
  match place with
  | 0 => simpa [Shadowed.act] using beside.handler independent performs
  | 1 =>
    obtain ⟨reply, after⟩ := beside.symm.handler independent.symm performs
    simpa [Shadowed.act] using And.intro reply after.symm
  | place + 2 => cases performs

theorem runTogether_merged (independent : first.Independent second) (start : Cluster)
    (schedule : List Nat) :
    let together := Program.runTogether handler schedule [first.provision, second.provision] start
    let one := first.provision.run handler start
    let two := second.provision.run handler start
    together.value = [one.value, two.value] ∧
      Merged start one.state two.state together.state := by
  intro together one two
  have steps : ∀ place (program : Program (Store Session) (Except Failure Report)),
      [first.provision, second.provision][place]? = some program →
        program.Steps handler (performsAt start first second place) start := by
    intro place program found
    match place with
    | 0 =>
      obtain rfl : first.provision = program := by simpa using found
      exact provision_steps first start
    | 1 =>
      obtain rfl : second.provision = program := by simpa using found
      exact provision_steps second start
    | place + 2 => simp at found
  obtain ⟨values, own, beside, ends⟩ :=
    (faithful independent start).end_alike schedule (.refl start first second) steps
  have firstEnd : own 0 = one.state := ends 0 _ rfl
  have secondEnd : own 1 = two.state := ends 1 _ rfl
  refine ⟨values, ?_⟩
  rw [← firstEnd, ← secondEnd]
  exact beside.merged

/-- Two runs of which neither writes what the other one looks at end in every interleaving as each
of them ends alone, and leave what they leave one after the other, in either order. -/
theorem independent_runs_keep_apart (start : Cluster) (first second : Request)
    (independent : first.Independent second) (schedule : List Nat) :
    let together := Program.runTogether handler schedule [first.provision, second.provision] start
    let one := first.provision.run handler start
    let two := second.provision.run handler start
    together.value = [one.value, two.value] ∧
      Merged start one.state two.state together.state ∧
      together.state =
        (Program.runAll handler [first.provision, second.provision] start).state ∧
      together.state =
        (Program.runAll handler [second.provision, first.provision] start).state := by
  intro together one two
  obtain ⟨values, merged⟩ := runTogether_merged independent start schedule
  obtain ⟨-, inTurn⟩ := runTogether_merged independent start []
  obtain ⟨-, reversed⟩ := runTogether_merged independent.symm start []
  exact ⟨values, merged, merged.unique inTurn, merged.unique reversed.symm⟩

end Cluster

def Request.sampleNeighbour : Request :=
  { sample with
    account := ⟨"eve", "pass", "app", [⟨"read", "app"⟩]⟩
    plan := .seed "notes" "2.0"
    stamp := 6 }

open Cluster in
/-- Both runs write in turn, and both find what they need. -/
theorem neighbours_keep_apart :
    let programs := [Request.sample.provision, Request.sampleNeighbour.provision]
    let together := Program.runTogether handler [0, 1, 1, 0, 0, 1, 1, 0] programs sample
    Request.sample.Independent .sampleNeighbour ∧
      together.value = [.ok ⟨.created, .seeded⟩, .ok ⟨.created, .seeded⟩] ∧
      together.state = (Program.runAll handler programs.reverse sample).state := by
  intro programs together
  have independent : Request.sample.Independent .sampleNeighbour := by
    refine ⟨by decide, ?_, by decide, by decide⟩
    rintro key ⟨⟩
    decide
  obtain ⟨values, -, -, reversed⟩ := independent_runs_keep_apart sample .sample .sampleNeighbour
    independent [0, 1, 1, 0, 0, 1, 1, 0]
  refine ⟨independent, values.trans ?_, reversed⟩
  have first : (Request.sample.provision.run handler sample).value = .ok ⟨.created, .seeded⟩ := by
    cbv
  have second : (Request.sampleNeighbour.provision.run handler sample).value =
      .ok ⟨.created, .seeded⟩ := by
    cbv
  rw [first, second]

end Provision
