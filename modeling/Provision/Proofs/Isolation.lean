import Mathlib
import Provision.Proofs.Admission
import Provision.Proofs.Concern
/-!
Sessions keep to the databases that their grants reach.

A call concerns one database, or none, and is refused unless its privilege is held there. So what a
session does and is told depends on the databases it has privileges on, and changes nothing of the
others. Two runs are compared over clusters that differ on one database only.
-/

namespace Provision

namespace Program

variable {I : Interface}

def inTurn : List I.Op → Program I Unit
  | [] => .done ()
  | op :: rest => .perform op fun _ => inTurn rest

theorem asks_inTurn {allowed : I.Op → Prop} {ops : List I.Op} (all : ∀ op ∈ ops, allowed op) :
    (inTurn ops).Asks allowed := by
  induction ops with
  | nil => trivial
  | cons op rest ih =>
    obtain ⟨here, later⟩ := List.forall_mem_cons.1 all
    exact ⟨here, fun _ => ih later⟩

end Program

namespace Cluster

/-- The two clusters differ in the users and the collections of one database at most. -/
structure AgreeOutside (database : String) (first second : Cluster) : Prop where
  users : ∀ key : Key, key.1 ≠ database → second.users.find? key = first.users.find? key
  collections : ∀ key : Key, key.1 ≠ database →
    second.collections.find? key = first.collections.find? key
  faults : second.faults = first.faults
  openSessions : second.openSessions = first.openSessions
  writes : second.writes = first.writes

def SameUsers (database : String) (before after : Cluster) : Prop :=
  ∀ username, after.users.find? (database, username) = before.users.find? (database, username)

def SameCollections (database : String) (before after : Cluster) : Prop :=
  ∀ collection,
    after.collections.find? (database, collection) =
      before.collections.find? (database, collection)

def OnSession (session : Session) : StoreOp Session → Prop
  | .openSession .. => False
  | .call used _ => used = session
  | .close used => used = session

variable {database : String} {session : Session} {call : Call}
variable {first second before middle after : Cluster}

/-! ### What a session changes -/

/-- A write is carried out on the database that its session has the privilege on. -/
theorem answer_induction_of_holds {keeps : Cluster → Prop} (unchanged : keeps before)
    (written : ∀ after, Written before call after →
      (∀ privilege home, call.needs = some (privilege, home) →
        session.holds privilege home = true) → keeps after) :
    keeps (before.answer session call).2 := by
  rcases answer_cases before session call with ⟨fault, answered⟩ | ⟨value, answered, -⟩ |
    ⟨value, after, answered, wrote⟩
  · rw [answered]
    exact unchanged
  · rw [answered]
    exact unchanged
  · rw [answered]
    exact written after wrote (refusal_eq_none_iff.1 (answer_ok answered).1.allowed)

theorem answer_sameUsers (lacks : session.holds .manageUsers database = false)
    (before : Cluster) (call : Call) :
    SameUsers database before (before.answer session call).2 := by
  apply answer_induction_of_holds
  · exact fun _ => rfl
  · intro after written held username
    cases written with
    | collection | marker => rfl
    | @user account =>
      have elsewhere : account.key ≠ (database, username) := by
        intro same
        have home : account.database = database := congrArg Prod.fst same
        have reaches := held .manageUsers account.database rfl
        rw [home, lacks] at reaches
        cases reaches
      exact Table.find?_insert_of_ne elsewhere _ _

theorem answer_sameCollections (lacks : session.holds .write database = false)
    (before : Cluster) (call : Call) :
    SameCollections database before (before.answer session call).2 := by
  apply answer_induction_of_holds
  · exact fun _ => rfl
  · intro after written held collection
    have elsewhere : ∀ home name, call.needs = some (.write, home) →
        (home, name) ≠ (database, collection) := by
      intro home name needs same
      obtain rfl : home = database := congrArg Prod.fst same
      have reaches := held .write home needs
      rw [lacks] at reaches
      cases reaches
    cases written with
    | user => rfl
    | collection | marker => exact Table.find?_insert_of_ne (elsewhere _ _ rfl) _ _

theorem handler_keeps {keeps : Cluster → Cluster → Prop}
    (stored : ∀ before after, after.users = before.users →
      after.collections = before.collections → keeps before after)
    (calls : ∀ before call, keeps before (before.answer session call).2) (op : StoreOp Session)
    (before : Cluster) (used : OnSession session op) : keeps before (handler op before).2 := by
  cases op with
  | openSession => exact used.elim
  | call other call =>
    obtain rfl : other = session := used
    exact calls before call
  | close =>
    obtain ⟨users, collections, -⟩ := close_stored before
    exact stored _ _ users collections

/-! ### What a session is told -/

theorem AgreeOutside.written {firstAfter secondAfter : Cluster}
    (agree : AgreeOutside database first second) (one : Written first call firstAfter)
    (other : Written second call secondAfter) : AgreeOutside database firstAfter secondAfter := by
  have count : second.writes + 1 = first.writes + 1 := congrArg (· + 1) agree.writes
  cases one with
  | user =>
    cases other
    refine ⟨fun key outside => ?_, agree.collections, agree.faults, agree.openSessions, count⟩
    rw [Table.find?_insert, Table.find?_insert, agree.users key outside]
  | collection =>
    cases other
    refine ⟨agree.users, fun key outside => ?_, agree.faults, agree.openSessions, count⟩
    rw [Table.find?_insert, Table.find?_insert, agree.collections key outside]
  | @marker home collection marker =>
    cases other
    refine ⟨agree.users, fun key outside => ?_, agree.faults, agree.openSessions, count⟩
    simp only [append, wrote, Table.find?_insert]
    split
    case isTrue here =>
      rw [records_eq_of_find? (agree.collections (home, collection) (here ▸ outside))]
    case isFalse => exact agree.collections key outside

theorem AgreeOutside.sameFor (agree : AgreeOutside database first second)
    (away : ∀ privilege home, call.needs = some (privilege, home) → home ≠ database) :
    SameFor first second call := by
  cases call with
  | serverVersion => trivial
  | userExists | createUser => exact agree.users _ (away _ _ rfl)
  | ensureCollection | findMarker | insertMarker => exact agree.collections _ (away _ _ rfl)
  | listCollections => exact fun name => agree.collections (_, name) (away _ _ rfl)

theorem AgreeOutside.execute (agree : AgreeOutside database first second)
    (away : ∀ privilege home, call.needs = some (privilege, home) → home ≠ database) :
    (first.execute call).1 = (second.execute call).1 ∧
      AgreeOutside database (first.execute call).2 (second.execute call).2 := by
  obtain ⟨replies, moves⟩ := (agree.sameFor away).execute
  exact ⟨replies, moves.keeps (AgreeOutside database) agree agree.written⟩

theorem AgreeOutside.answer (agree : AgreeOutside database first second)
    (foreign : ∀ privilege, session.holds privilege database = false) (call : Call) :
    (first.answer session call).1 = (second.answer session call).1 ∧
      AgreeOutside database (first.answer session call).2 (second.answer session call).2 := by
  unfold Cluster.answer
  rw [agree.faults]
  cases first.faults call.faultPoint with
  | some fault => exact ⟨rfl, agree⟩
  | none =>
    cases allowed : session.refusal call with
    | some refusal => exact ⟨rfl, agree⟩
    | none =>
      apply agree.execute
      rintro privilege home needs rfl
      have reaches := refusal_eq_none_iff.1 allowed privilege home needs
      rw [foreign] at reaches
      cases reaches

theorem AgreeOutside.close (agree : AgreeOutside database first second) :
    first.close.1 = second.close.1 ∧ AgreeOutside database first.close.2 second.close.2 := by
  have closed : second.openSessions - 1 = first.openSessions - 1 :=
    congrArg (· - 1) agree.openSessions
  unfold Cluster.close
  rw [agree.faults]
  cases first.faults .close with
  | some fault => exact ⟨rfl, agree.users, agree.collections, rfl, closed, agree.writes⟩
  | none => exact ⟨rfl, agree.users, agree.collections, rfl, closed, agree.writes⟩

theorem AgreeOutside.handler (foreign : ∀ privilege, session.holds privilege database = false)
    (op : StoreOp Session) (first second : Cluster) (used : OnSession session op)
    (agree : AgreeOutside database first second) :
    (handler op first).1 = (handler op second).1 ∧
      AgreeOutside database (handler op first).2 (handler op second).2 := by
  cases op with
  | openSession => exact used.elim
  | call other call =>
    obtain rfl : other = session := used
    exact agree.answer foreign call
  | close => exact agree.close

/-! ### Whole runs -/

variable {α : Type} {program : Program (Store Session) α}

theorem run_sameUsers (lacks : session.holds .manageUsers database = false)
    (confined : program.Asks (OnSession session)) (cluster : Cluster) :
    SameUsers database cluster (program.run handler cluster).state :=
  confined.run_keeps (fun _ _ => rfl)
    (fun _ _ _ early late username => (late username).trans (early username))
    (handler_keeps (fun _ _ users _ _ => by rw [users]) (answer_sameUsers lacks)) cluster

theorem run_sameCollections (lacks : session.holds .write database = false)
    (confined : program.Asks (OnSession session)) (cluster : Cluster) :
    SameCollections database cluster (program.run handler cluster).state :=
  confined.run_keeps (fun _ _ => rfl)
    (fun _ _ _ early late collection => (late collection).trans (early collection))
    (handler_keeps (fun _ _ _ collections _ => by rw [collections]) (answer_sameCollections lacks))
    cluster

/-- Whatever is asked of a session one after the other, with the replies in view, a database that it
has no privilege on takes no part: clusters that differ there only give the same replies, go on to
differ there only, and keep what they have there. A session that may not manage the users of a
database leaves them as they are, and one that may not write leaves the collections. -/
theorem sessions_keep_to_their_databases (database : String) (session : Session) {α : Type}
    (program : Program (Store Session) α) (confined : program.Asks (OnSession session)) :
    (∀ first second, (∀ privilege, session.holds privilege database = false) →
      AgreeOutside database first second →
        let one := program.run handler first
        let other := program.run handler second
        program.trace handler first = program.trace handler second ∧
          one.value = other.value ∧ AgreeOutside database one.state other.state ∧
          SameUsers database first one.state ∧ SameCollections database first one.state ∧
          SameUsers database second other.state ∧ SameCollections database second other.state) ∧
    (∀ cluster, session.holds .manageUsers database = false →
      SameUsers database cluster (program.run handler cluster).state) ∧
    ∀ cluster, session.holds .write database = false →
      SameCollections database cluster (program.run handler cluster).state := by
  refine ⟨fun first second foreign agree => ?_, fun cluster lacks => run_sameUsers lacks confined _,
    fun cluster lacks => run_sameCollections lacks confined _⟩
  obtain ⟨traces, values, -, ends⟩ := confined.run_alike (AgreeOutside.handler foreign) agree
  exact ⟨traces, values, ends, run_sameUsers (foreign _) confined _,
    run_sameCollections (foreign _) confined _, run_sameUsers (foreign _) confined _,
    run_sameCollections (foreign _) confined _⟩

def sampleNeighbour : Cluster :=
  { sample with
    users := sample.users.insert ("other", "eve") ⟨"pass", [⟨"dbOwner", "other"⟩]⟩ }.append
      "other" "notes" ⟨"by-hand", .fresh "1" 2⟩

/-- A session on one database asks about the other one, and tries to write there. -/
theorem neighbour_stays_unnoticed :
    let session : Session := [⟨"readWrite", "app"⟩]
    let program := Program.inTurn (I := Store Session)
      [.call session .serverVersion, .call session (.ensureCollection "app" "notes"),
        .call session (.listCollections "other"), .call session (.findMarker "other" "notes"),
        .call session (.insertMarker "other" "notes" (.fresh "1" 5)),
        .call session (.createUser ⟨"eve", "word", "other", [⟨"root", "other"⟩]⟩), .close session]
    AgreeOutside "other" sample sampleNeighbour ∧
      program.trace handler sample = program.trace handler sampleNeighbour ∧
      SameUsers "other" sampleNeighbour (program.run handler sampleNeighbour).state := by
  intro session program
  have agree : AgreeOutside "other" sample sampleNeighbour := by
    constructor
    case users =>
      intro key outside
      refine (Table.find?_insert ..).trans (if_neg ?_)
      rintro rfl
      exact outside rfl
    case collections =>
      intro key outside
      refine (Table.find?_insert ..).trans (if_neg ?_)
      rintro rfl
      exact outside rfl
    all_goals rfl
  have confined : program.Asks (OnSession session) := Program.asks_inTurn (by simp [OnSession])
  have foreign : ∀ privilege, session.holds privilege "other" = false := by
    rintro (_ | _ | _) <;> rfl
  obtain ⟨alike, -⟩ := sessions_keep_to_their_databases "other" session program confined
  obtain ⟨traces, -, -, -, -, users, -⟩ := alike _ _ foreign agree
  exact ⟨agree, traces, users⟩

end Cluster

end Provision
