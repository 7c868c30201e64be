import Mathlib
import Provision.Proofs.Alone
import Provision.Proofs.History
/-!
Failed calls change nothing, and successful writes are counted.

A fault is answered before the store is touched, by a look-up that finds something in the way, or by
an insertion that finds the collection as it would have made it. So an operation that fails leaves
the cluster as it was, only that a close has given up its session anyway. A write that succeeds adds
one thing and one to the count, so the count says how many writes have succeeded.
-/

namespace Provision

namespace StoreOp

variable {S : Type}

/-- Where a fault can be injected for an operation. Opening a session has no such point. -/
def faultPoint : StoreOp S → Option FaultPoint
  | .openSession .. => none
  | .call _ asked => some asked.faultPoint
  | .close _ => some .close

def failed (fault : Fault) : (op : StoreOp S) → op.Reply
  | .openSession .. => .error fault
  | .call .. => .error fault
  | .close _ => .error fault

end StoreOp

namespace Exchange

variable {S : Type}

def writes : Exchange (Store S) → Bool
  | ⟨.call _ (.createUser _), .ok _⟩ => true
  | ⟨.call _ (.ensureCollection ..), .ok _⟩ => true
  | ⟨.call _ (.insertMarker ..), .ok _⟩ => true
  | _ => false

theorem writes_of_error (session : S) (call : Call) (fault : Fault) :
    writes ⟨.call session call, .error fault⟩ = false := by
  cases call <;> rfl

theorem writes_of_read {call : Call} (session : S) (look : call.LooksUp)
    (reply : Except Fault call.Answer) : writes ⟨.call session call, reply⟩ = false := by
  cases call with
  | userExists | findMarker | serverVersion | listCollections => rfl
  | createUser | ensureCollection | insertMarker => cases look

end Exchange

/-- One entry has come to a table, under a key that had none. -/
def Table.Gains {β : Type} (before : Table β) (key : Key) (value : β) (after : Table β) : Prop :=
  before.find? key = none ∧ after.entries.Perm ((key, value) :: before.entries)

theorem Table.insertEntry_perm {β : Type} {key : Key} {value : β} {entries : List (Key × β)}
    (absent : entries.find? (fun entry => decide (entry.1 = key)) = none) :
    (insertEntry key value entries).Perm ((key, value) :: entries) := by
  induction entries with
  | nil => exact .refl _
  | cons head rest ih =>
    have apart : ¬key = head.1 := by
      intro same
      simp [same] at absent
    have later : rest.find? (fun entry => decide (entry.1 = key)) = none := by
      simpa [Ne.symm apart] using absent
    unfold insertEntry
    rw [if_neg apart]
    split
    · exact .refl _
    · exact ((ih later).cons head).trans (.swap _ _ _)

theorem Table.gains_insert {β : Type} {table : Table β} {key : Key} (value : β)
    (absent : table.contains key = false) : table.Gains key value (table.insert key value) := by
  have none : table.find? key = none := by simpa [contains] using absent
  refine ⟨none, insertEntry_perm ?_⟩
  simpa [find?] using none

namespace Cluster

/-- A cluster after a successful write: one thing more, one write more, and all else the same. -/
inductive Gains (before : Cluster) : Call → Cluster → Prop
  | user {account : Account} {users : Table User}
      (gained : before.users.Gains account.key account.user users) :
      Gains before (.createUser account)
        { before with users, writes := before.writes + 1 }
  | collection {database collection : String} {collections : Table (List Record)}
      (gained : before.collections.Gains (database, collection) [] collections) :
      Gains before (.ensureCollection database collection)
        { before with collections, writes := before.writes + 1 }
  | document {database collection : String} {marker : Marker} {collections : Table (List Record)}
      (appended : ∀ key, collections.find? key =
        if key = (database, collection) then
          some (before.records database collection ++ [⟨Marker.identifier, marker⟩])
        else before.collections.find? key) :
      Gains before (.insertMarker database collection marker)
        { before with collections, writes := before.writes + 1 }

def released (cluster : Cluster) : StoreOp Session → Cluster
  | .close _ => { cluster with openSessions := cluster.openSessions - 1 }
  | _ => cluster

/-- A fault injected at a point is neither cleared nor replaced. -/
structure Stands (point : FaultPoint) (history : List Action) : Prop where
  uncleared : .clearFaults ∉ history
  unreplaced : ∀ fault, .inject point fault ∉ history

variable {cluster before after : Cluster} {session : Session} {call : Call} {point : FaultPoint}
variable {fault : Fault}

theorem Written.gains (written : Written before call after) : before.Gains call after := by
  cases written with
  | user known absent => exact .user (Table.gains_insert _ absent)
  | collection absent => exact .collection (Table.gains_insert _ absent)
  | @marker database collection marker absent =>
    refine .document fun key => ?_
    simp only [append, Table.find?_insert, eq_comm]

theorem Gains.writes (gains : before.Gains call after) : after.writes = before.writes + 1 := by
  cases gains <;> rfl

theorem Gains.exchanged (gains : before.Gains call after) (session : Session)
    (value : call.Answer) : Exchange.writes ⟨.call session call, .ok value⟩ = true := by
  cases gains <;> rfl

theorem gains_of_answer {value : call.Answer}
    (answered : cluster.answer session call = (.ok value, after)) :
    call.LooksUp ∧ after = cluster ∨ cluster.Gains call after := by
  rcases answer_cases cluster session call with ⟨fault, other⟩ | ⟨value, other, look⟩ |
    ⟨value, last, other, written⟩
  · simp [answered] at other
  · rw [answered] at other
    exact .inl ⟨look, congrArg Prod.snd other⟩
  · rw [answered] at other
    obtain rfl : after = last := congrArg Prod.snd other
    exact .inr written.gains

theorem unmoved_of_error (answered : (cluster.answer session call).1 = .error fault) :
    (cluster.answer session call).2 = cluster := by
  rcases answer_cases cluster session call with ⟨fault, other⟩ | ⟨value, other, -⟩ |
    ⟨value, last, other, -⟩
  · rw [other]
  · rw [other]
  · simp [other] at answered

theorem close_released (cluster : Cluster) (session : Session) :
    (handler (.close session) cluster).2 = cluster.released (.close session) := by
  simp only [handler, close]
  cases cluster.faults .close <;> rfl

/-- An operation that fails leaves the cluster as it was, but for the session that a close gives
up. -/
theorem released_of_failed {op : StoreOp Session}
    (failed : (handler op cluster).1 = op.failed fault) :
    (handler op cluster).2 = cluster.released op := by
  cases op with
  | openSession scope credentials => exact openSession_error (Prod.ext failed rfl)
  | call session call => exact unmoved_of_error failed
  | close session => exact close_released cluster session

theorem failed_of_fault {op : StoreOp Session} (reached : op.faultPoint = some point)
    (injected : cluster.faults point = some fault) :
    (handler op cluster).1 = op.failed fault := by
  cases op with
  | openSession => cases reached
  | call session call =>
    obtain rfl := Option.some.inj reached
    exact congrArg Prod.fst (answer_of_fault injected)
  | close session =>
    obtain rfl := Option.some.inj reached
    simp only [handler, close, injected, StoreOp.failed]

/-! ### Faults that stand -/

theorem act_fault {action : Action} (injected : cluster.faults point = some fault)
    (uncleared : action ≠ .clearFaults) (unreplaced : ∀ other, action ≠ .inject point other) :
    (cluster.act action).faults point = some fault := by
  cases action with
  | ask op => exact (congrFun (handler_faults cluster op) point).trans injected
  | inject elsewhere other =>
    have apart : ¬point = elsewhere := by
      rintro rfl
      exact unreplaced other rfl
    exact (if_neg apart).trans injected
  | clearFaults => exact absurd rfl uncleared
  | insertRaw => exact injected

theorem after_fault {history : List Action} (injected : cluster.faults point = some fault)
    (stands : Stands point history) : (cluster.after history).faults point = some fault := by
  induction history generalizing cluster with
  | nil => exact injected
  | cons action rest ih =>
    refine ih (act_fault injected ?_ ?_) ⟨?_, ?_⟩
    · rintro rfl
      exact stands.uncleared List.mem_cons_self
    · rintro other rfl
      exact stands.unreplaced other List.mem_cons_self
    · exact fun later => stands.uncleared (.tail _ later)
    · exact fun other later => stands.unreplaced other (.tail _ later)

/-! ### The count of writes -/

theorem openSession_writes (cluster : Cluster) (scope : String) (credentials : Credentials) :
    (cluster.openSession scope credentials).2.writes = cluster.writes := by
  unfold openSession
  cases cluster.users.find? (scope, credentials.username) with
  | none => rfl
  | some user => by_cases password : user.password = credentials.password <;> simp [password]

theorem handler_writes (op : StoreOp Session) (cluster : Cluster) :
    (handler op cluster).2.writes =
      cluster.writes + [(⟨op, (handler op cluster).1⟩ : Exchange (Store Session))].countP
        Exchange.writes := by
  cases op with
  | openSession scope credentials => exact openSession_writes cluster scope credentials
  | close session =>
    rw [close_released]
    rfl
  | call session call =>
    simp only [handler]
    rcases answer_cases cluster session call with ⟨fault, answered⟩ | ⟨value, answered, look⟩ |
      ⟨value, after, answered, written⟩
    · simp [answered, Exchange.writes_of_error]
    · simp [answered, Exchange.writes_of_read session look]
    · simp [answered, written.gains.exchanged session value, written.gains.writes]

theorem after_writes (cluster : Cluster) (history : List Action) :
    (cluster.after history).writes =
      cluster.writes + (cluster.exchanged history).countP Exchange.writes := by
  induction history generalizing cluster with
  | nil => rfl
  | cons action rest ih =>
    have later : (cluster.after (action :: rest)).writes = _ := ih (cluster.act action)
    rw [later]
    cases action with
    | ask op =>
      have first := handler_writes op cluster
      simp only [act, exchanged, List.countP_cons, List.countP_nil] at first ⊢
      omega
    | inject | clearFaults | insertRaw => rfl

/-- Whatever has happened to a cluster, an operation that fails has changed nothing, except that a
close has given up its session. As long as a fault stands at a point, every operation that reaches
the point fails with it. A call that succeeds has looked something up or added what it was to add,
and the writes counted are the calls that were answered so. -/
theorem failures_are_atomic :
    (∀ (cluster : Cluster) (op : StoreOp Session) (fault : Fault),
      (handler op cluster).1 = op.failed fault → (handler op cluster).2 = cluster.released op) ∧
    (∀ (cluster : Cluster) (point : FaultPoint) (fault : Fault) (history : List Action),
      Stands point history → ∀ op : StoreOp Session, op.faultPoint = some point →
        (handler op ((cluster.inject point fault).after history)).1 = op.failed fault) ∧
    (∀ (cluster after : Cluster) (session : Session) (call : Call) (value : call.Answer),
      cluster.answer session call = (.ok value, after) →
        call.LooksUp ∧ after = cluster ∨ cluster.Gains call after) ∧
    ∀ (scope : String) (root : Credentials) (history : List Action),
      let start := withRoot scope root
      (start.after history).writes = (start.exchanged history).countP Exchange.writes := by
  refine ⟨?_, ?_, ?_, ?_⟩
  · intro cluster op fault failed
    exact released_of_failed failed
  · intro cluster point fault history stands op reached
    have injected : (cluster.inject point fault).faults point = some fault := if_pos rfl
    exact failed_of_fault reached (after_fault injected stands)
  · intro cluster after session call value answered
    exact gains_of_answer answered
  · intro scope root history start
    exact (after_writes start history).trans (Nat.zero_add _)

def twoInsertions (insertion : StoreOp Session) : List Action :=
  [.inject .insertMarker ⟨.other, "disk full"⟩, .ask insertion, .clearFaults, .ask insertion]

theorem second_insertion_is_counted :
    let start := withRoot "admin" ⟨"root", "secret"⟩
    let insertion := .call [⟨"root", "admin"⟩] (.insertMarker "app" "description" ⟨"1.0", 5, false⟩)
    let seeded := start.after (twoInsertions insertion)
    (start.exchanged (twoInsertions insertion)).map Exchange.writes = [false, true] ∧
      seeded.writes = 1 ∧ (handler insertion seeded).2 = seeded := by
  intro start insertion seeded
  have replies : (start.exchanged (twoInsertions insertion)).map Exchange.writes =
      [false, true] := by cbv
  obtain ⟨atomic, -, -, counted⟩ := failures_are_atomic
  refine ⟨replies, ?_, ?_⟩
  · have count : seeded.writes = _ :=
      counted "admin" ⟨"root", "secret"⟩ (twoInsertions insertion)
    rw [count, List.countP_eq_length_filter, ← List.length_map Exchange.writes]
    cbv
  · have refused : (handler insertion seeded).1 =
        insertion.failed (Refusal.markerExists "app" "description").fault := by cbv
    exact atomic seeded insertion _ refused

end Cluster

end Provision
