import Provision.Proofs.Exchange
import Provision.Remote.Driver
/-!
A run against a server, seen from the program that runs.

Each operation of a datastore is carried out by a program on the wire, so whatever answers on the
wire answers the datastore's operations too. The program gives the same value either way. Opening a
session sends no command but pings, and a call is one command, whose reply decides its answer.
-/

namespace Provision

namespace Program

variable {I J : Interface} {α σ : Type}

/-- How operations are answered that are carried out over another interface. -/
def carriedOut (means : (op : I.Op) → Program J (I.Reply op)) (handler : Handler J σ) :
    Handler I σ :=
  fun op state =>
    let ran := (means op).run handler state
    (ran.value, ran.state)

variable (means : (op : I.Op) → Program J (I.Reply op)) (handler : Handler J σ)

/-- Carrying every operation out leaves the value and the state of a run as they are. -/
theorem run_via (program : Program I α) (state : σ) :
    ((program.via means).run handler state).value =
        (program.run (carriedOut means handler) state).value ∧
      ((program.via means).run handler state).state =
        (program.run (carriedOut means handler) state).state := by
  induction program generalizing state with
  | done value => exact ⟨rfl, rfl⟩
  | emit event rest ih => exact ih state
  | perform op next ih =>
    simp only [via, run_bind, run]
    exact ih _ _

end Program

theorem Retry.attemptFrom_asks {I : Interface} {α : Type} {allowed : I.Op → Prop}
    {connect : Program I (Except Fault α)} {pause : UInt64 → Program I Unit}
    (connecting : connect.Asks allowed) (pausing : ∀ ms, (pause ms).Asks allowed) (limit : Nat)
    (interval : UInt64) (number left : Nat) :
    (attemptFrom connect pause limit interval number left).Asks allowed := by
  have succeeded (number : Nat) (value : α) :
      (if 1 < number then .emit (.attemptSucceeded number interval) (.done (.ok value))
        else .done (.ok value) : Program I (Except Fault α)).Asks allowed := by
    split <;> trivial
  induction left generalizing number with
  | zero =>
    unfold attemptFrom
    refine connecting.bind ?_
    rintro (fault | value)
    · trivial
    · exact succeeded number value
  | succ left ih =>
    unfold attemptFrom
    refine connecting.bind ?_
    rintro (fault | value)
    · cases again : fault.isRetryable with
      | true =>
        simp only [again, ↓reduceIte]
        exact (pausing interval).bind fun _ => ih (number + 1)
      | false =>
        simp only [again, Bool.false_eq_true, ↓reduceIte]
        trivial
    · exact succeeded number value

namespace Remote

def Greets : WireOp → Prop
  | .command _ sent => ∃ scope, sent = .ping scope
  | _ => True

theorem connectOnce_asks (server : ServerSettings) (scope : String) (credentials : Credentials) :
    (connectOnce server scope credentials).Asks Greets := by
  refine ⟨trivial, ?_⟩
  rintro (error | connected)
  · trivial
  refine ⟨trivial, ?_⟩
  rintro (error | admitted)
  · exact ⟨trivial, fun _ => trivial⟩
  refine ⟨⟨scope, rfl⟩, ?_⟩
  rintro (error | greeting)
  · exact ⟨trivial, fun _ => trivial⟩
  · trivial

theorem opening_asks (server : ServerSettings) (scope : String) (credentials : Credentials) :
    (means server (.openSession scope credentials)).Asks Greets := by
  refine Retry.attemptFrom_asks (connectOnce_asks server scope credentials) ?_ _ _ _ _
  exact fun ms => ⟨trivial, fun _ => trivial⟩

theorem asks_via_driver {α : Type} {allowed : WireOp → Prop} (driver : Driver)
    {program : Program Wire α} (asks : program.Asks allowed) :
    (program.via driver.means).Asks allowed := by
  induction program with
  | done value => trivial
  | emit event rest ih => exact ih asks
  | perform op next ih => exact ⟨asks.1, fun reply => ih (driver.pass op reply) (asks.2 _)⟩

section

variable {σ α : Type} (driver : Driver) (server : ServerSettings) (handler : Handler RawWire σ)

/-- How the operations of a datastore are answered by a server behind a driver. -/
def Driver.answering (driver : Driver) (server : ServerSettings) (handler : Handler RawWire σ) :
    Handler (Store Client) σ :=
  Program.carriedOut (fun op => (Remote.means server op).via driver.means) handler

theorem onServer_eq (program : Program (Store Client) α) :
    driver.onServer server program =
      program.via fun op => (means server op).via driver.means :=
  Program.via_via (J := Wire) _ _ program

theorem onServer_value (program : Program (Store Client) α) (state : σ) :
    ((driver.onServer server program).run handler state).value =
      (program.run (driver.answering server handler) state).value := by
  rw [onServer_eq]
  exact (program.run_via (I := Store Client) _ handler state).1

/-- A call is one command and takes its answer from what the driver makes of the reply. -/
theorem means_call (client : Client) (asked : Call) (state : σ) :
    let reply := (handler (.command client (commandOf asked)) state).1
    ((means server (.call client asked)).via driver.means).trace handler state =
        [⟨.command client (commandOf asked), reply⟩] ∧
      (driver.answering server handler (.call client asked) state).1 =
        answerOf asked (reply.bind (driver.take (commandOf asked))) :=
  ⟨rfl, rfl⟩

end

end Remote

end Provision
