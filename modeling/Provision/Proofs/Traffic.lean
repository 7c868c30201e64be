import Mathlib
import Provision.Proofs.Atomicity
import Provision.Proofs.Sessions
/-!
The count of open sessions.

A session is in one hand at a time, of somebody who opened it or of a task under way. From there it
is closed once, or given up without a close. So however many are at work, a cluster counts what was
opened less what was closed, and a task that has ended has no part in the count.
-/

namespace Provision

@[simp] theorem stillOpen_nil {S : Type} : stillOpen ([] : List (Exchange (Store S))) = 0 := rfl

@[simp] theorem stillOpen_call {S : Type} {rest : List (Exchange (Store S))} (session : S)
    (call : Call) (reply : Except Fault call.Answer) :
    stillOpen (⟨.call session call, reply⟩ :: rest) = stillOpen rest := by
  have silent := stillOpen_exchangesOn session [⟨call, reply⟩]
  have parts := stillOpen_append (Program.exchangesOn session [⟨call, reply⟩]) rest
  rwa [silent, Int.zero_add] at parts

namespace Program

variable {I : Interface} {α β σ S : Type}

def exchange (handler : Handler I σ) : Program I α → σ → Option (Exchange I)
  | .done _, _ => none
  | .emit _ rest, state => exchange handler rest state
  | .perform op _, state => some ⟨op, (handler op state).1⟩

def Ended : Program I α → Prop
  | .done _ => True
  | .emit _ rest => Ended rest
  | .perform .. => False

/-- Whatever is answered, a program that holds so many sessions never closes more than it holds, and
holds none when it is done. -/
def Settles : Program (Store S) α → Int → Prop
  | .done _, held => held = 0
  | .emit _ rest, held => Settles rest held
  | .perform op next, held => ∀ reply,
    0 ≤ held + stillOpen [⟨op, reply⟩] ∧ Settles (next reply) (held + stillOpen [⟨op, reply⟩])

variable {program : Program (Store S) α} {held : Int}

theorem Settles.bind {next : α → Program (Store S) β} (first : program.Settles held)
    (rest : ∀ value, (next value).Settles 0) : (program.bind next).Settles held := by
  induction program generalizing held with
  | done value =>
    obtain rfl : held = 0 := first
    exact rest value
  | emit event later ih => exact ih first
  | perform op later ih => exact fun reply => ⟨(first reply).1, ih reply (first reply).2⟩

theorem settles_on_bind (session : S) (body : Program Calls α) {next : α → Program (Store S) β}
    (enough : 0 ≤ held) (rest : ∀ value, (next value).Settles held) :
    ((body.on session).bind next).Settles held := by
  induction body with
  | done value => exact rest value
  | emit event later ih => exact ih
  | perform call later ih =>
    intro reply
    rw [stillOpen_call, stillOpen_nil, Int.add_zero]
    exact ⟨enough, ih reply⟩

theorem Settles.advance (settles : program.Settles held) (handler : Handler (Store S) σ)
    (state : σ) :
    (program.advance handler state).value.Settles
      (held + stillOpen (program.exchange handler state).toList) := by
  induction program with
  | done value =>
    rw [exchange, Option.toList_none, stillOpen_nil, Int.add_zero]
    exact settles
  | emit event rest ih => exact ih settles
  | perform op next => exact (settles _).2

theorem Settles.advance_enough (settles : program.Settles held) (handler : Handler (Store S) σ)
    (state : σ) (enough : 0 ≤ held) :
    0 ≤ held + stillOpen (program.exchange handler state).toList := by
  induction program with
  | done value =>
    rw [exchange, Option.toList_none, stillOpen_nil, Int.add_zero]
    exact enough
  | emit event rest ih => exact ih settles
  | perform op next => exact (settles _).1

theorem Settles.eq_zero_of_ended (settles : program.Settles held) (ended : program.Ended) :
    held = 0 := by
  induction program with
  | done value => exact settles
  | emit event rest ih => exact ih settles ended
  | perform op next => exact ended.elim

end Program

section

open Program

variable {S : Type}

theorem settles_withSession {α : Type} (operation : Operation) (scope : String)
    (credentials : Credentials) (body : Program Calls α) :
    (withSession (S := S) operation scope credentials body).Settles 0 := by
  intro reply
  cases reply with
  | error fault =>
    rw [stillOpen_refused, stillOpen_nil]
    exact ⟨le_rfl, rfl⟩
  | ok session =>
    rw [stillOpen_open, stillOpen_nil]
    refine ⟨by decide, settles_on_bind session body (by decide) fun value closed => ?_⟩
    rw [stillOpen_close, stillOpen_nil]
    refine ⟨by decide, ?_⟩
    cases closed <;> rfl

/-- Before it ends, every task has closed as many sessions as it opened, and never more. -/
theorem settles_task {α : Type} (task : Task α) : (task.program (S := S)).Settles 0 :=
  task_induction (motive := fun program => program.Settles 0) (fun _ => rfl) (fun _ => id)
    Settles.bind settles_withSession task

end

namespace Cluster

/-- A task under way: what it still has to do, and what it has exchanged so far. -/
structure Activity where
  Result : Type
  rest : Program (Store Session) Result
  asked : List (Exchange (Store Session)) := []

def Activity.advance (cluster : Cluster) (activity : Activity) : Activity where
  Result := activity.Result
  rest := (activity.rest.advance handler cluster).value
  asked := activity.asked ++ (activity.rest.exchange handler cluster).toList

structure Traffic where
  cluster : Cluster
  /-- The sessions that were opened by hand and are neither closed nor given up. -/
  held : List Session := []
  /-- What was exchanged with the cluster by hand. -/
  byHand : List (Exchange (Store Session)) := []
  tasks : List Activity := []

/-- What can happen next. A session is called, closed and given up at its place among those that are
held, and a task that is given up is one that is not advanced any more. -/
inductive Move where
  | openSession (scope : String) (credentials : Credentials)
  | call (place : Nat) (call : Call)
  | close (place : Nat)
  | giveUp (place : Nat)
  | start {α : Type} (task : Task α)
  | advance (place : Nat)
  | inject (point : FaultPoint) (fault : Fault)
  | clearFaults
  | insertRaw (database collection : String) (record : Record)

namespace Traffic

def exchange (traffic : Traffic) : Move → Option (Exchange (Store Session))
  | .openSession scope credentials =>
    some ⟨_, (handler (.openSession scope credentials) traffic.cluster).1⟩
  | .call place call => traffic.held[place]?.map fun session =>
    ⟨_, (handler (.call session call) traffic.cluster).1⟩
  | .close place => traffic.held[place]?.map fun session =>
    ⟨_, (handler (.close session) traffic.cluster).1⟩
  | .advance place => traffic.tasks[place]?.bind fun activity =>
    activity.rest.exchange handler traffic.cluster
  | _ => none

def moved (traffic : Traffic) : Move → Cluster
  | .advance place => traffic.tasks[place]?.elim traffic.cluster fun activity =>
    (activity.rest.advance handler traffic.cluster).state
  | .inject point fault => traffic.cluster.inject point fault
  | .clearFaults => traffic.cluster.clearFaults
  | .insertRaw database collection record => traffic.cluster.append database collection record
  | move => (traffic.exchange move).elim traffic.cluster fun exchange =>
    (handler exchange.op traffic.cluster).2

def handed (traffic : Traffic) : Move → List Session
  | .openSession scope credentials =>
    match (handler (.openSession scope credentials) traffic.cluster).1 with
    | .error _ => traffic.held
    | .ok session => session :: traffic.held
  | .close place | .giveUp place => traffic.held.eraseIdx place
  | _ => traffic.held

def noted (traffic : Traffic) : Move → List (Exchange (Store Session))
  | .advance _ => traffic.byHand
  | move => traffic.byHand ++ (traffic.exchange move).toList

def engaged (traffic : Traffic) : Move → List Activity
  | .start task => traffic.tasks ++ [⟨_, task.program, []⟩]
  | .advance place => traffic.tasks.modify place (Activity.advance traffic.cluster)
  | _ => traffic.tasks

def move (traffic : Traffic) (move : Move) : Traffic where
  cluster := traffic.moved move
  held := traffic.handed move
  byHand := traffic.noted move
  tasks := traffic.engaged move

def after (traffic : Traffic) (moves : List Move) : Traffic :=
  moves.foldl move traffic

def exchanges (traffic : Traffic) : List (Exchange (Store Session)) :=
  traffic.byHand ++ traffic.tasks.flatMap Activity.asked

end Traffic

variable {cluster : Cluster} {traffic : Traffic} {activity : Activity}

/-- Sessions are counted as they are exchanged, as long as none is closed that is not open. -/
theorem handler_openSessions (op : StoreOp Session)
    (enough : 0 ≤ (cluster.openSessions : Int) + stillOpen [⟨op, (handler op cluster).1⟩]) :
    ((handler op cluster).2.openSessions : Int) =
      cluster.openSessions + stillOpen [⟨op, (handler op cluster).1⟩] := by
  cases op with
  | openSession scope credentials =>
    cases answered : handler (.openSession scope credentials) cluster with
    | mk reply after =>
    cases reply with
    | error fault =>
      rw [stillOpen_refused, stillOpen_nil, openSession_error answered, Int.add_zero]
    | ok session =>
      obtain ⟨-, -, -, -, rfl⟩ := openSession_ok.1 answered
      rw [stillOpen_open, stillOpen_nil, Int.zero_add]
      exact Int.natCast_succ _
  | call session call =>
    rw [stillOpen_call, stillOpen_nil, Int.add_zero]
    exact congrArg Nat.cast (answer_openSessions cluster session call)
  | close session =>
    rw [stillOpen_close, stillOpen_nil] at enough ⊢
    rw [close_released]
    simp only [released]
    omega

theorem advance_openSessions {α : Type} {program : Program (Store Session) α}
    (enough : 0 ≤ (cluster.openSessions : Int) +
      stillOpen (program.exchange handler cluster).toList) :
    ((program.advance handler cluster).state.openSessions : Int) =
      cluster.openSessions + stillOpen (program.exchange handler cluster).toList := by
  induction program with
  | done value => exact (Int.add_zero _).symm
  | emit event rest ih => exact ih enough
  | perform op next => exact handler_openSessions op enough

/-! ### What a task holds -/

def Activity.Settled (activity : Activity) : Prop :=
  activity.rest.Settles (stillOpen activity.asked) ∧ 0 ≤ stillOpen activity.asked

theorem Activity.advance_asked (cluster : Cluster) (activity : Activity) :
    stillOpen (activity.advance cluster).asked = stillOpen activity.asked +
      stillOpen (activity.rest.exchange handler cluster).toList :=
  stillOpen_append _ _

theorem Activity.Settled.advance (settled : activity.Settled) (cluster : Cluster) :
    (activity.advance cluster).Settled := by
  unfold Activity.Settled
  rw [activity.advance_asked cluster]
  exact ⟨settled.1.advance handler cluster, settled.1.advance_enough handler cluster settled.2⟩

theorem run_openSessions {α : Type} {program : Program (Store Session) α} {held : Int}
    (settles : program.Settles held) (within : held ≤ cluster.openSessions) :
    ((program.run handler cluster).state.openSessions : Int) = cluster.openSessions - held := by
  induction program generalizing held cluster with
  | done value =>
    obtain rfl : held = 0 := settles
    exact (Int.sub_zero _).symm
  | emit event rest ih => exact ih settles within
  | perform op next ih =>
    obtain ⟨enough, rest⟩ := settles (handler op cluster).1
    have counted : ((handler op cluster).2.openSessions : Int) = _ :=
      handler_openSessions op (by omega)
    have later : (((next _).run handler (handler op cluster).2).state.openSessions : Int) = _ :=
      ih _ rest (by omega)
    simp only [Program.run]
    omega

/-! ### What everybody holds -/

namespace Traffic

/-- The count of a cluster is that of its exchanges, and nobody holds more than is counted. -/
structure Balanced (traffic : Traffic) : Prop where
  counted : (traffic.cluster.openSessions : Int) = stillOpen traffic.exchanges
  inHand : (traffic.held.length : Int) ≤ stillOpen traffic.byHand
  settled : ∀ activity ∈ traffic.tasks, activity.Settled

theorem stillOpen_asked (tasks : List Activity) :
    stillOpen (tasks.flatMap Activity.asked) =
      (tasks.map fun activity => stillOpen activity.asked).sum := by
  induction tasks with
  | nil => rfl
  | cons activity others ih =>
    rw [List.flatMap_cons, stillOpen_append, ih, List.map_cons, List.sum_cons]

theorem stillOpen_exchanges (traffic : Traffic) :
    stillOpen traffic.exchanges = stillOpen traffic.byHand +
      (traffic.tasks.map fun activity => stillOpen activity.asked).sum := by
  rw [exchanges, stillOpen_append, stillOpen_asked]

theorem sum_modify (cluster : Cluster) (tasks : List Activity) (place : Nat) :
    ((tasks.modify place (Activity.advance cluster)).map fun activity =>
        stillOpen activity.asked).sum =
      (tasks.map fun activity => stillOpen activity.asked).sum +
        stillOpen (tasks[place]?.bind fun activity =>
          activity.rest.exchange handler cluster).toList := by
  induction tasks generalizing place with
  | nil => simp
  | cons activity others ih =>
    cases place with
    | zero =>
      have asked := activity.advance_asked cluster
      simp only [List.modify_zero_cons, List.map_cons, List.sum_cons, List.getElem?_cons_zero,
        Option.bind_some]
      omega
    | succ place =>
      have later := ih place
      simp only [List.modify_succ_cons, List.map_cons, List.sum_cons, List.getElem?_cons_succ]
      omega

theorem stillOpen_exchanges_move (traffic : Traffic) (move : Move) :
    stillOpen (traffic.move move).exchanges =
      stillOpen traffic.exchanges + stillOpen (traffic.exchange move).toList := by
  have hand := stillOpen_append traffic.byHand (traffic.exchange move).toList
  rw [stillOpen_exchanges, stillOpen_exchanges]
  cases move with
  | advance place =>
    have sum := sum_modify traffic.cluster traffic.tasks place
    simp only [Traffic.move, noted, engaged, exchange] at sum ⊢
    omega
  | start task =>
    simp only [Traffic.move, noted, engaged, List.map_append, List.sum_append, List.map_cons,
      List.map_nil, List.sum_cons, List.sum_nil, stillOpen_nil] at hand ⊢
    omega
  | openSession | call | close | giveUp | inject | clearFaults | insertRaw =>
    simp only [Traffic.move, noted, engaged] at hand ⊢
    omega

theorem start_balanced (scope : String) (root : Credentials) :
    (⟨withRoot scope root, [], [], []⟩ : Traffic).Balanced where
  counted := rfl
  inHand := le_rfl
  settled := by simp

theorem Balanced.asked_nonneg (balanced : traffic.Balanced) :
    ∀ count ∈ traffic.tasks.map fun activity => stillOpen activity.asked, 0 ≤ count := by
  intro count member
  obtain ⟨activity, under, rfl⟩ := List.mem_map.1 member
  exact (balanced.settled activity under).2

theorem Balanced.inHand_le (balanced : traffic.Balanced) :
    (traffic.held.length : Int) ≤ traffic.cluster.openSessions := by
  have others := List.sum_nonneg balanced.asked_nonneg
  have inHand := balanced.inHand
  rw [balanced.counted, stillOpen_exchanges]
  omega

theorem Balanced.asked_le (balanced : traffic.Balanced) (under : activity ∈ traffic.tasks) :
    stillOpen activity.asked ≤ traffic.cluster.openSessions := by
  have one := List.single_le_sum balanced.asked_nonneg _ (List.mem_map_of_mem under)
  have inHand := balanced.inHand
  rw [balanced.counted, stillOpen_exchanges]
  omega

/-- No move closes a session where none is counted. -/
theorem Balanced.enough (balanced : traffic.Balanced) (move : Move) :
    0 ≤ (traffic.cluster.openSessions : Int) + stillOpen (traffic.exchange move).toList := by
  cases move with
  | openSession scope credentials =>
    simp only [exchange, Option.toList_some]
    cases (handler (.openSession scope credentials) traffic.cluster).1 with
    | error fault => simp
    | ok session => simp; omega
  | call place call =>
    simp only [exchange]
    cases traffic.held[place]? <;> simp
  | close place =>
    simp only [exchange]
    cases found : traffic.held[place]? with
    | none => simp
    | some session =>
      obtain ⟨within, -⟩ := List.getElem?_eq_some_iff.1 found
      have inHand := balanced.inHand_le
      simp
      omega
  | advance place =>
    simp only [exchange]
    cases found : traffic.tasks[place]? with
    | none => simp
    | some activity =>
      -- A task closes what it has open itself, and all of that is counted.
      have under := List.mem_of_getElem? found
      obtain ⟨settles, holding⟩ := balanced.settled activity under
      have enough := settles.advance_enough handler traffic.cluster holding
      have within := balanced.asked_le under
      simp only [Option.bind_some]
      omega
  | giveUp | start | inject | clearFaults | insertRaw => simp [exchange]

theorem moved_openSessions {move : Move}
    (enough : 0 ≤ (traffic.cluster.openSessions : Int) +
      stillOpen (traffic.exchange move).toList) :
    ((traffic.moved move).openSessions : Int) =
      traffic.cluster.openSessions + stillOpen (traffic.exchange move).toList := by
  cases move with
  | openSession scope credentials => exact handler_openSessions _ enough
  | call place call | close place =>
    simp only [moved, exchange] at enough ⊢
    cases found : traffic.held[place]? with
    | none => simp
    | some session =>
      rw [found] at enough
      exact handler_openSessions _ enough
  | advance place =>
    simp only [moved, exchange] at enough ⊢
    cases found : traffic.tasks[place]? with
    | none => simp
    | some activity =>
      rw [found] at enough
      exact advance_openSessions enough
  | giveUp | start | inject | clearFaults | insertRaw => exact (Int.add_zero _).symm

theorem Balanced.handed_le (balanced : traffic.Balanced) (move : Move) :
    ((traffic.handed move).length : Int) ≤ stillOpen (traffic.noted move) := by
  have inHand := balanced.inHand
  cases move with
  | openSession scope credentials =>
    simp only [handed, noted, exchange, Option.toList_some, stillOpen_append]
    cases (handler (.openSession scope credentials) traffic.cluster).1 with
    | error fault => simpa using inHand
    | ok session => simpa using inHand
  | call place call =>
    simp only [handed, noted, exchange, stillOpen_append]
    cases traffic.held[place]? <;> simpa using inHand
  | close place =>
    simp only [handed, noted, exchange, stillOpen_append]
    cases found : traffic.held[place]? with
    | none =>
      rw [List.eraseIdx_of_length_le (List.getElem?_eq_none_iff.1 found)]
      simpa using inHand
    | some session =>
      obtain ⟨within, -⟩ := List.getElem?_eq_some_iff.1 found
      rw [List.length_eraseIdx_of_lt within]
      simp
      omega
  | giveUp place =>
    have fewer := List.length_eraseIdx_le traffic.held place
    simp only [handed, noted, exchange, Option.toList_none, List.append_nil]
    omega
  | advance | start | inject | clearFaults | insertRaw =>
    simpa [handed, noted, exchange] using inHand

theorem Balanced.engaged_settled (balanced : traffic.Balanced) (move : Move) :
    ∀ activity ∈ traffic.engaged move, activity.Settled := by
  have settled := balanced.settled
  cases move with
  | start task =>
    intro activity under
    rcases List.mem_append.1 under with before | new
    · exact settled activity before
    · obtain rfl := List.mem_singleton.1 new
      exact ⟨settles_task task, le_rfl⟩
  | advance place =>
    intro activity under
    obtain ⟨index, there⟩ := List.mem_iff_getElem?.1 under
    rw [engaged, List.getElem?_modify] at there
    obtain ⟨before, found, rfl⟩ := Option.map_eq_some_iff.1 there
    have kept := settled before (List.mem_of_getElem? found)
    split
    · exact kept.advance traffic.cluster
    · exact kept
  | openSession | call | close | giveUp | inject | clearFaults | insertRaw => exact settled

theorem Balanced.move (balanced : traffic.Balanced) (move : Move) :
    (traffic.move move).Balanced where
  counted := by
    rw [stillOpen_exchanges_move, ← balanced.counted]
    exact moved_openSessions (balanced.enough move)
  inHand := balanced.handed_le move
  settled := balanced.engaged_settled move

theorem Balanced.after (balanced : traffic.Balanced) (moves : List Move) :
    (traffic.after moves).Balanced := by
  induction moves generalizing traffic with
  | nil => exact balanced
  | cons move rest ih => exact ih (balanced.move move)

end Traffic

/-- Whatever is done by hand and by tasks side by side, a cluster has as many sessions open as were
opened and not closed. It is never told to close a session where it counts none. A task that has
ended has no part in the count, however it ended, and so a task alone leaves the count as it was. -/
theorem sessions_are_counted (scope : String) (root : Credentials) (moves : List Move) :
    let traffic := (⟨withRoot scope root, [], [], []⟩ : Traffic).after moves
    traffic.cluster.openSessions + traffic.exchanges.countP Exchange.closes =
        traffic.exchanges.countP Exchange.opens ∧
      (∀ move session closed, traffic.exchange move = some ⟨.close session, closed⟩ →
        0 < traffic.cluster.openSessions) ∧
      (∀ activity ∈ traffic.tasks, activity.rest.Ended →
        activity.asked.countP Exchange.opens = activity.asked.countP Exchange.closes) ∧
      ∀ {α : Type} (task : Task α) (cluster : Cluster),
        (task.program.run handler cluster).state.openSessions = cluster.openSessions := by
  intro traffic
  have balanced : traffic.Balanced := (Traffic.start_balanced scope root).after moves
  refine ⟨?counted, ?closed, ?ended, ?alone⟩
  case counted =>
    have counted := balanced.counted
    unfold stillOpen at counted
    omega
  case closed =>
    intro move session closed found
    have enough := balanced.enough move
    rw [found, Option.toList_some, stillOpen_close, stillOpen_nil] at enough
    omega
  case ended =>
    intro activity under ended
    have none := (balanced.settled activity under).1.eq_zero_of_ended ended
    unfold stillOpen at none
    omega
  case alone =>
    intro α task cluster
    have counted : ((task.program.run handler cluster).state.openSessions : Int) = _ :=
      run_openSessions (settles_task task) (Int.natCast_nonneg _)
    omega

/-- A run among sessions that are opened by hand. One of them is given up, and one is closed by a
close that fails, as the close of the run does. -/
theorem given_up_session_stays_counted :
    let root : Credentials := ⟨"root", "secret"⟩
    let empty : Traffic := ⟨withRoot "admin" root, [], [], []⟩
    let moves : List Move := [.openSession "admin" root, .start (.provision Request.sample),
      .advance 0, .openSession "admin" root, .inject .close ⟨.unavailable, "gone"⟩, .giveUp 1]
    let before := empty.after moves
    let ended := empty.after (moves ++ .close 0 :: List.replicate 6 (.advance 0))
    (∃ session, before.exchange (.close 0) =
        some ⟨.close session, .error ⟨.unavailable, "gone"⟩⟩ ∧ 0 < before.cluster.openSessions) ∧
      (∃ activity ∈ ended.tasks, activity.rest.Ended ∧ activity.asked.length = 7 ∧
        activity.asked.countP Exchange.opens = activity.asked.countP Exchange.closes) ∧
      ended.cluster.openSessions = 1 ∧
      1 + ended.exchanges.countP Exchange.closes = ended.exchanges.countP Exchange.opens := by
  intro root empty moves before ended
  obtain ⟨-, closed, -, -⟩ := sessions_are_counted "admin" root moves
  obtain ⟨counted, -, balanced, -⟩ :=
    sessions_are_counted "admin" root (moves ++ .close 0 :: List.replicate 6 (.advance 0))
  have closing : before.exchange (.close 0) =
      some ⟨.close [⟨"root", "admin"⟩], .error ⟨.unavailable, "gone"⟩⟩ := by cbv
  have ends : ended.tasks[0]?.elim False fun activity =>
      activity.rest.Ended ∧ activity.asked.length = 7 := by cbv
  have one : ended.cluster.openSessions = 1 := by cbv
  have still : 1 + ended.exchanges.countP Exchange.closes = ended.exchanges.countP Exchange.opens :=
    one ▸ counted
  cases found : ended.tasks[0]? with
  | none =>
    rw [found] at ends
    exact ends.elim
  | some activity =>
    rw [found] at ends
    obtain ⟨finished, exchanged⟩ := ends
    have under := List.mem_of_getElem? found
    exact ⟨⟨_, closing, closed _ _ _ closing⟩,
      ⟨activity, under, finished, exchanged, balanced activity under finished⟩, one, still⟩

end Cluster

end Provision
