import Mathlib
import Provision.Proofs.Commands
import Provision.Proofs.Decoding
import Provision.Proofs.Replies
import Provision.Proofs.Up
import Provision.Remote.Server
/-!
The first document of the marker's collection, as a server returns it.

Its content decides a run: a document that reads as a marker counts as the marker, and any other
document fails the run. Either way nothing is written for the marker any more.
-/

namespace Provision

theorem UserDialogue.not_find {account : Account} {calls : List (Exchange Calls)}
    {result : Except Failure UserOutcome} (dialogue : UserDialogue account calls result)
    (database collection : String) (answer : Except Fault (Option Marker)) :
    ⟨.findMarker database collection, answer⟩ ∉ calls := by
  intro asked
  cases dialogue.call_of_mem asked

theorem MarkerDialogue.found {database collection name version : String} {stamp : Int64}
    {calls : List (Exchange Calls)} {result : Except Failure MarkerOutcome}
    {answer : Except Fault (Option Marker)}
    (dialogue : MarkerDialogue database name version stamp calls result)
    (asked : ⟨.findMarker database collection, answer⟩ ∈ calls) (found : answer ≠ .ok none) :
    calls = [⟨.findMarker database collection, answer⟩] ∧ result = match answer with
      | .error fault => .error (.marker database collection fault.message)
      | .ok _ => .ok .alreadyPresent := by
  cases dialogue with
  | nameless | versionless => cases asked
  | unseen | present =>
    cases List.mem_singleton.1 asked
    exact ⟨rfl, rfl⟩
  | unensured named versioned fault other =>
    rcases List.mem_pair.1 asked with same | same
    · cases same
      exact absurd rfl found
    · cases same
  | ensured named versioned reply tolerated seeding =>
    rcases List.mem_cons.1 asked with same | later
    · cases same
      exact absurd rfl found
    rcases List.mem_cons.1 later with same | last
    · cases same
    · cases seeding <;> cases List.mem_singleton.1 last

/-- A run whose look-up finds anything, or fails, asks for nothing to be written for a marker and
ends by what the look-up was answered. -/
theorem RunDialogue.found {S : Type} {request : Request} {opening : Except Fault S}
    {calls : List (Exchange Calls)} {result : Except Failure Report} {collection : String}
    {answer : Except Fault (Option Marker)}
    (dialogue : RunDialogue request opening calls result)
    (asked : ⟨.findMarker request.target collection, answer⟩ ∈ calls) (found : answer ≠ .ok none) :
    (∀ exchange ∈ calls, UserCall request.account exchange.op ∨
      exchange.op = .findMarker request.target collection) ∧
    ∃ user, result = match answer with
      | .error fault => .error (.marker request.target collection fault.message)
      | .ok _ => .ok ⟨user, .alreadyPresent⟩ := by
  cases dialogue with
  | unopened | rejected => cases asked
  | userless session accepted user => exact absurd asked (user.not_find _ _ _)
  | @planned session accepted first last outcome ended user plan =>
    have planned := (List.mem_append.1 asked).resolve_left (user.not_find _ _ _)
    cases plan with
    | skipped => cases planned
    | seeding plan dialogue =>
      obtain ⟨alone, ended⟩ := dialogue.found planned found
      constructor
      · intro exchange member
        rw [alone] at member
        rcases List.mem_append.1 member with early | late
        · exact .inl (user.call_of_mem early)
        · exact .inr (List.mem_singleton.1 late ▸ rfl)
      · refine ⟨outcome, ?_⟩
        rw [ended]
        cases answer <;> rfl

namespace Remote

variable {σ : Type} {driver : Driver} {server : ServerSettings} {handler : Handler RawWire σ}
variable {state : σ} {request : Request} {client : Client} {collection : String}
variable {reply document : Bson.Document}

/-- A run for which the driver found a document writes no marker and creates no collection. It
succeeds exactly if the document describes a marker, which then counts as present, and otherwise
fails with the first thing that is wrong with the document. -/
theorem first_document_decides
    (asked : ⟨.command client (.find request.target collection), .ok reply⟩ ∈
      (driver.onServer server request.provision).trace handler state)
    (found : driver.take (.find request.target collection) reply = .ok (some document)) :
    let ran := (driver.onServer server request.provision).run handler state
    (∀ exchange ∈ (driver.onServer server request.provision).trace handler state,
      ∀ sender database name, exchange.op ≠ .command sender (.create database name) ∧
        ∀ written, exchange.op ≠ .command sender (.insert database name written)) ∧
    ((∃ user, ran.value = .ok ⟨user, .alreadyPresent⟩) ↔ Marker.Describes document) ∧
    ∀ malformed, Marker.ofDocument document = .error malformed →
      ran.value = .error (.marker request.target collection malformed.fault.message) := by
  intro ran
  obtain ⟨⟨call, raw⟩, sent, looked⟩ := call_of_command driver server handler asked nofun
  obtain rfl : .findMarker request.target collection = call :=
    commandOf_injective (congrArg Sent.command sent).symm
  obtain rfl : raw = .ok reply := congrArg Sent.reply sent
  let answer := ((Marker.ofDocument document).map some).mapError MalformedMarker.fault
  have answered : Made.exchange driver ⟨.findMarker request.target collection, .ok reply⟩ =
      ⟨.findMarker request.target collection, answer⟩ := by
    have taken : driver.take (commandOf (.findMarker request.target collection)) reply =
        .ok (some document) := found
    simp only [Made.exchange, Made.sent, Sent.outcome, Except.bind, taken, answerOf]
    rfl
  rw [answered] at looked
  obtain ⟨opening, -, dialogue⟩ :=
    provision_dialogue (driver.answering server handler) state request
  have something : answer ≠ .ok none := by
    unfold answer
    cases Marker.ofDocument document <;> exact nofun
  obtain ⟨calls, user, told⟩ := dialogue.found looked something
  have value : ran.value = _ := (onServer_value driver server handler _ state).trans told
  -- Every command but the ping was sent for one of the calls, and those are all accounted for.
  have commands : ∀ sender sent other, ⟨.command sender sent, other⟩ ∈
      (driver.onServer server request.provision).trace handler state →
        (∀ scope, sent ≠ .ping scope) →
          sent = .usersInfo request.account.database request.account.username ∨
          sent = .createUser request.account ∨ sent = .find request.target collection := by
    intro sender sent other member noPing
    obtain ⟨⟨call, raw⟩, same, exchanged⟩ := call_of_command driver server handler member noPing
    obtain rfl : commandOf call = sent := congrArg Sent.command same
    rcases calls _ exchanged with about | same
    · cases about with
      | look => exact .inl rfl
      | create => exact .inr (.inl rfl)
    · obtain rfl : call = .findMarker request.target collection := same
      exact .inr (.inr rfl)
  refine ⟨?_, ?_, ?_⟩
  · rintro ⟨op, other⟩ member sender database name
    constructor
    · rintro rfl
      rcases commands _ _ _ member nofun with same | same | same <;> cases same
    · rintro written rfl
      rcases commands _ _ _ member nofun with same | same | same <;> cases same
  · rw [← Marker.ofDocument_ok_iff, value]
    unfold answer
    cases Marker.ofDocument document with
    | error malformed => simp [Except.map, Except.mapError]
    | ok marker => simp [Except.map, Except.mapError]
  · intro malformed read
    rw [value]
    unfold answer
    rw [read]
    rfl

def Server.found (document : Bson.Document) : Bson.Document :=
  [("cursor", .document [("id", .int64 0), ("ns", .string "app.description"),
    ("firstBatch", .array [.document document])]), ("ok", .int32 1)]

/-- A server that knows the sample's user and has a document in the marker's collection. -/
def Server.holding (document : Bson.Document) : Server where
  logins := [("admin", ⟨"root", "secret"⟩)]
  script :=
    [("usersInfo", [.reply [("users", .array [.document []]), ("ok", .int32 1)]]),
      ("find", [.reply (found document)])]

theorem holding_refusal (document : Bson.Document) :
    (Server.holding document).refusal Settings.sample.server.address = none := by
  have readable : Address.isReadable Settings.sample.server.address = true := by cbv
  simp [Server.refusal, Server.holding, readable]

theorem attempts_left : Retry.limitOf Settings.sample.server.attempts - 1 = 4 := by
  cbv

theorem described_document_is_present :
    ∃ user, ((Driver.standard.onServer Settings.sample.server Request.sample.provision).run
      Server.rawHandler (.holding [("version", .string "0.2.0"), ("migrated", .boolean true),
        ("at", .dateTime 5)])).value = .ok ⟨user, .alreadyPresent⟩ := by
  have asked : ((Driver.standard.onServer Settings.sample.server Request.sample.provision).trace
      Server.rawHandler (.holding [("version", .string "0.2.0"), ("migrated", .boolean true),
        ("at", .dateTime 5)]))[4]? = some ⟨.command ⟨"admin", "root"⟩ (.find "app" "description"),
          .ok (Server.found [("version", .string "0.2.0"), ("migrated", .boolean true),
            ("at", .dateTime 5)])⟩ := by
    simp only [Driver.onServer, onServer, Request.provision, Program.via, Program.via_bind,
      Program.bind_perform, withSession, means, retry, attempts_left, Retry.attemptFrom,
      connectOnce, Program.trace, Program.trace_bind, Program.run_bind, Driver.means, Driver.pass,
      Server.rawHandler, holding_refusal]
    cbv
  obtain ⟨-, outcome, -⟩ := first_document_decides (List.mem_of_getElem? asked) rfl
  exact outcome.2 ⟨⟨_, rfl⟩, ⟨_, rfl⟩, _, _, rfl, rfl⟩

/-- A document of an older tool, which knew neither times nor migrations, fails the run. -/
theorem versioned_document_fails :
    let ran := (onServer Settings.sample.server Request.sample.provision).run Server.handler
      (.holding [("version", .string "0.2.0")])
    ran.value = .error (.marker "app" "description"
        "malformed marker document: migrated: field is not present") ∧
      ∀ user, ran.value ≠ .ok ⟨user, .alreadyPresent⟩ := by
  have failed : ((onServer Settings.sample.server Request.sample.provision).run Server.handler
      (.holding [("version", .string "0.2.0")])).value = .error (.marker "app" "description"
        "malformed marker document: migrated: field is not present") := by
    simp only [onServer, Request.provision, Program.via, Program.bind_perform, withSession, means,
      retry, attempts_left, Retry.attemptFrom, connectOnce, Program.run, Program.run_bind,
      Server.handler, Driver.relay, Server.rawHandler, holding_refusal]
    cbv
  refine ⟨failed, fun user succeeded => ?_⟩
  rw [failed] at succeeded
  cases succeeded

end Remote

end Provision
