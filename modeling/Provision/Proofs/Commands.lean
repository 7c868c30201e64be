import Provision.Proofs.Dialogue
import Provision.Proofs.Wire
/-!
The commands of a run against a server.

Apart from the pings of its logins a run sends the commands of its calls, one for each, in the order
of the calls. What came back for a command decides the answer to its call.
-/

namespace Provision

namespace Remote

structure Sent where
  command : ServerCommand
  reply : Except DriverError Bson.Document

def Sent.outcome (driver : Driver) (sent : Sent) : Except DriverError sent.command.Result :=
  sent.reply.bind (driver.take sent.command)

structure Made where
  call : Call
  reply : Except DriverError Bson.Document

namespace Made

def sent (made : Made) : Sent :=
  ⟨commandOf made.call, made.reply⟩

def exchange (driver : Driver) (made : Made) : Exchange Calls :=
  ⟨made.call, answerOf made.call (made.sent.outcome driver)⟩

end Made

theorem toDocument_injective {marker other : Marker}
    (same : marker.toDocument = other.toDocument) : marker = other := by
  cases marker
  cases other
  simpa [Marker.toDocument] using same

theorem commandOf_injective {call other : Call} (same : commandOf call = commandOf other) :
    call = other := by
  cases call <;> cases other <;> simp_all [commandOf]
  case insertMarker => exact toDocument_injective same.2.2

/-- The command of an exchange, unless it is the ping of a login. -/
def sentIn : Exchange RawWire → Option Sent
  | ⟨.command _ (.ping _), _⟩ => none
  | ⟨.command _ command, reply⟩ => some ⟨command, reply⟩
  | _ => none

theorem sentIn_of_greets {exchange : Exchange RawWire} (greets : Greets exchange.op) :
    sentIn exchange = none := by
  cases exchange with
  | mk op reply =>
    cases op with
    | command client command =>
      obtain ⟨scope, rfl⟩ := greets
      rfl
    | connect | login | disconnect | pause => rfl

section

variable {σ α : Type} (driver : Driver) (server : ServerSettings) (handler : Handler RawWire σ)

theorem sent_of_opening (scope : String) (credentials : Credentials) (state : σ) :
    (((means server (.openSession scope credentials)).via driver.means).trace handler
      state).filterMap sentIn = [] := by
  apply List.filterMap_eq_nil_iff.2
  intro exchange member
  have greeting := asks_via_driver driver (opening_asks server scope credentials)
  exact sentIn_of_greets (greeting.of_mem_trace member)

theorem sentIn_call (client : Client) (call : Call) (reply : Except DriverError Bson.Document) :
    sentIn ⟨.command client (commandOf call), reply⟩ = some ⟨commandOf call, reply⟩ := by
  cases call <;> rfl

/-- The commands that a program sends are those of the calls that it makes, in their order, and the
calls are answered by what the driver made of the replies. -/
theorem commands_of_calls (program : Program (Store Client) α) (state : σ) :
    ∃ made : List Made,
      ((driver.onServer server program).trace handler state).filterMap sentIn =
        made.map Made.sent ∧
      (program.trace (driver.answering server handler) state).filterMap Exchange.onSession =
        made.map (Made.exchange driver) := by
  rw [onServer_eq]
  induction program generalizing state with
  | done value => exact ⟨[], rfl, rfl⟩
  | emit event rest ih => exact ih state
  | perform op next ih =>
    simp only [Program.via, Program.trace_bind, List.filterMap_append, Program.trace]
    let ran := ((means server op).via driver.means).run handler state
    obtain ⟨made, commands, calls⟩ := ih ran.value ran.state
    cases op with
    | openSession scope credentials =>
      refine ⟨made, ?_, calls⟩
      rw [sent_of_opening, List.nil_append]
      exact commands
    | call client call =>
      obtain ⟨trace, value⟩ := means_call driver server handler client call state
      refine ⟨⟨call, (handler (.command client (commandOf call)) state).1⟩ :: made, ?_, ?_⟩
      · rw [trace, List.filterMap_cons, sentIn_call]
        exact congrArg (_ :: ·) commands
      · exact congrArg₂ List.cons (congrArg (Exchange.mk (I := Calls) call) value) calls
    | close client => exact ⟨made, commands, calls⟩

theorem call_of_command {program : Program (Store Client) α} {state : σ} {client : Client}
    {sent : ServerCommand} {reply : Except DriverError Bson.Document}
    (member : ⟨.command client sent, reply⟩ ∈
      (driver.onServer server program).trace handler state)
    (noPing : ∀ scope, sent ≠ .ping scope) :
    ∃ made : Made, made.sent = ⟨sent, reply⟩ ∧ made.exchange driver ∈
      (program.trace (driver.answering server handler) state).filterMap Exchange.onSession := by
  have seen : sentIn ⟨.command client sent, reply⟩ = some ⟨sent, reply⟩ := by
    cases sent with
    | ping scope => exact absurd rfl (noPing scope)
    | _ => rfl
  obtain ⟨made, commands, calls⟩ := commands_of_calls driver server handler program state
  have listed := List.mem_filterMap.2 ⟨_, member, seen⟩
  rw [commands] at listed
  obtain ⟨here, among, same⟩ := List.mem_map.1 listed
  rw [calls]
  exact ⟨here, same, List.mem_map_of_mem among⟩

end

end Remote

end Provision
