import Provision.Proofs.Commands
import Provision.Proofs.KnownReplies
import Provision.Proofs.Replies
/-!
What the replies to the commands of a run tell about its calls.

Of all errors only those with one of three codes tell that something is there already. A look-up of
a user is read off the reply, all else off what the driver makes of it.
-/

namespace Provision

namespace Remote

/-- There is a collection of that name, a document of that key or a user of that name already. -/
def ExistingCode (code : Int32) : Prop :=
  code = 48 ∨ code = 11000 ∨ code = 51003
deriving Decidable

namespace DriverError

def code? : DriverError → Option Int32
  | .command code _ _ | .write code _ _ => some code
  | _ => none

def TellsExisting (error : DriverError) : Prop :=
  ∃ code, error.code? = some code ∧ ExistingCode code

theorem tellsExisting_of_code {error : DriverError} {code : Int32}
    (coded : error.code? = some code) : error.TellsExisting ↔ ExistingCode code := by
  unfold TellsExisting
  rw [coded]
  simp

theorem faultKindOfCode_alreadyExists {code : Int32} :
    faultKindOfCode code = .alreadyExists ↔ ExistingCode code := by
  unfold faultKindOfCode ExistingCode
  split
  · simp_all
  split
  · simp_all
  split <;> simp_all

theorem isAlreadyExists_fault (error : DriverError) :
    error.fault.isAlreadyExists = true ↔ error.TellsExisting := by
  cases error with
  | command code _ _ | write code _ _ =>
    rw [tellsExisting_of_code rfl]
    exact decide_eq_true_iff.trans faultKindOfCode_alreadyExists
  | _ => simp [TellsExisting, Fault.isAlreadyExists, fault, faultKind, code?]

theorem isAlreadyExists_fault_of_not {error : DriverError} (other : ¬error.TellsExisting) :
    error.fault.isAlreadyExists = false :=
  Bool.eq_false_iff.2 (mt error.isAlreadyExists_fault.1 other)

end DriverError

namespace Sent

variable (driver : Driver)

def Acknowledged (sent : Sent) : Prop :=
  ∃ result, sent.outcome driver = .ok result

def FoundExisting (sent : Sent) : Prop :=
  ∃ error, sent.outcome driver = .error error ∧ error.TellsExisting

/-- A look-up of a user whose reply lists these. -/
def ListsUsers (sent : Sent) (account : Account) (users : List Bson) : Prop :=
  sent.Acknowledged driver ∧ ∃ reply : Bson.Document,
    sent = ⟨.usersInfo account.database account.username, .ok reply⟩ ∧
      reply.get? "users" = some (.array users)

def FindsNothing (sent : Sent) (database collection : String) : Prop :=
  ∃ reply, sent = ⟨.find database collection, reply⟩ ∧
    outcome driver ⟨.find database collection, reply⟩ = .ok none

/-- The server refused the command, or the one document that it was to write, with a code. -/
inductive Refused : Sent → Int32 → Prop
  | command {command : ServerCommand} {reply : Bson.Document} {code : Int32}
      {codeName message : String} (refuses : Reply.Refuses reply code codeName message) :
      Refused ⟨command, .ok reply⟩ code
  | document {database collection : String} {document reply : Bson.Document} {code : Int32}
      {message : String} (refuses : Reply.RefusesDocument reply code message) :
      Refused ⟨.insert database collection document, .ok reply⟩ code

inductive Accepted : Sent → Prop
  | user {account : Account} {reply : Bson.Document} (succeeds : Reply.Succeeds reply) :
      Accepted ⟨.createUser account, .ok reply⟩
  | collection {database collection : String} {reply : Bson.Document}
      (acknowledges : Reply.Acknowledges reply) : Accepted ⟨.create database collection, .ok reply⟩
  | document {database collection : String} {document reply : Bson.Document}
      (acknowledges : Reply.Acknowledges reply) (counted : reply.get? "n" = some (.int32 1)) :
      Accepted ⟨.insert database collection document, .ok reply⟩

variable {driver} {sent : Sent} {code : Int32}

theorem Refused.failed (refused : sent.Refused code) (documented : driver.Documented) :
    ∃ error, sent.outcome driver = .error error ∧ error.code? = some code := by
  cases refused with
  | command refuses => exact ⟨_, documented.refused _ _ _ _ _ refuses, rfl⟩
  | document refuses =>
    obtain ⟨codeName, taken⟩ := documented.unwritten _ _ _ _ _ _ refuses
    exact ⟨_, taken, rfl⟩

theorem Accepted.acknowledged (accepted : sent.Accepted) (documented : driver.Documented) :
    sent.Acknowledged driver := by
  cases accepted with
  | user succeeds => exact ⟨_, documented.created _ _ succeeds⟩
  | collection acknowledges => exact ⟨_, documented.ensured _ _ _ acknowledges⟩
  | document acknowledges counted => exact ⟨_, documented.inserted _ _ _ _ acknowledges counted⟩

theorem foundExisting_of_refused (documented : driver.Documented) (refused : sent.Refused code)
    (existing : ExistingCode code) : sent.FoundExisting driver := by
  obtain ⟨error, failed, coded⟩ := refused.failed documented
  exact ⟨error, failed, (DriverError.tellsExisting_of_code coded).2 existing⟩

/-- Whether a code tells that something is there decides between two ends of a run. -/
theorem Refused.settles {there : Prop} {ended : DriverError → Prop} (refused : sent.Refused code)
    (documented : driver.Documented) (existing : sent.FoundExisting driver → there)
    (other : ∀ error, sent.outcome driver = .error error → ¬error.TellsExisting → ended error)
    (apart : ∀ error, ended error → ¬there) :
    (there ↔ ExistingCode code) ∧ (¬ExistingCode code → ∃ error, ended error) := by
  obtain ⟨error, failed, coded⟩ := refused.failed documented
  have tells := DriverError.tellsExisting_of_code coded
  by_cases known : ExistingCode code
  · have found := existing ⟨error, failed, tells.2 known⟩
    exact ⟨iff_of_true found known, absurd known⟩
  · have stopped := other error failed (mt tells.1 known)
    exact ⟨iff_of_false (apart error stopped) known, fun _ => ⟨error, stopped⟩⟩

theorem listsUsers_of_reply {account : Account} {reply : Bson.Document} {users : List Bson}
    (documented : driver.Documented) (succeeds : Reply.Succeeds reply)
    (listed : reply.get? "users" = some (.array users)) :
    ListsUsers driver ⟨.usersInfo account.database account.username, .ok reply⟩ account users :=
  ⟨⟨reply, documented.seen _ _ reply succeeds⟩, reply, rfl, listed⟩

theorem findsNothing_of_lists {database collection : String} {reply : Bson.Document}
    (documented : driver.Documented)
    (lists : Reply.Lists reply (database ++ "." ++ collection) []) :
    FindsNothing driver ⟨.find database collection, .ok reply⟩ database collection :=
  ⟨_, rfl, documented.found database collection reply [] lists⟩

end Sent

section

variable {call : Call} {answer : call.Answer} {fault : Fault}
variable {outcome : Except DriverError (commandOf call).Result}

theorem answerOf_eq_ok_iff : answerOf call outcome = .ok answer ↔
    ∃ result, outcome = .ok result ∧ readAnswer call result = .ok answer := by
  cases outcome <;> simp [answerOf]

theorem answerOf_write_ok_iff (reads : ∀ result, readAnswer call result = .ok answer) :
    answerOf call outcome = .ok answer ↔ ∃ result, outcome = .ok result := by
  rw [answerOf_eq_ok_iff]
  simp only [reads, and_true]

theorem answerOf_write_error_iff (reads : ∀ result, readAnswer call result = .ok answer) :
    answerOf call outcome = .error fault ↔
      ∃ error, outcome = .error error ∧ error.fault = fault := by
  cases outcome with
  | error error => simp [answerOf]
  | ok result => simp [answerOf, reads]

end

section

variable {driver : Driver} {call : Call} {reply : Except DriverError Bson.Document}

theorem answerOf_of_error {error : DriverError}
    (got : Sent.outcome driver ⟨commandOf call, reply⟩ = .error error) :
    answerOf call (Sent.outcome driver ⟨commandOf call, reply⟩) = .error error.fault :=
  congrArg (answerOf call) got

theorem answerOf_of_acknowledged {answer : call.Answer}
    (reads : ∀ result, readAnswer call result = .ok answer)
    (acknowledged : Sent.Acknowledged driver ⟨commandOf call, reply⟩) :
    answerOf call (Sent.outcome driver ⟨commandOf call, reply⟩) = .ok answer :=
  (answerOf_write_ok_iff reads).2 acknowledged

end

theorem readAnswer_userExists_iff {database username : String} {reply : Bson.Document}
    {there : Bool} : readAnswer (.userExists database username) reply = .ok there ↔
      ∃ users, reply.get? "users" = some (.array users) ∧ (!users.isEmpty) = there := by
  simp only [readAnswer]
  cases listed : Bson.Document.read reply "users" Bson.asArray with
  | error fault =>
    have unread (users : List Bson) : reply.get? "users" ≠ some (.array users) := by
      intro given
      have read := Bson.Document.read_eq_ok_iff.2 ⟨_, given, Bson.asArray_eq_some_iff.2 rfl⟩
      rw [read] at listed
      cases listed
    simp [unread, Except.map, Except.mapError]
  | ok users =>
    obtain ⟨value, field, array⟩ := Bson.Document.read_eq_ok_iff.1 listed
    rw [field, Bson.asArray_eq_some_iff.1 array]
    simp [Except.map, Except.mapError]

theorem readAnswer_findMarker_none_iff {database collection : String}
    {found : Option Bson.Document} :
    readAnswer (.findMarker database collection) found = .ok none ↔ found = none := by
  cases found with
  | none => simp [readAnswer]
  | some document =>
    cases read : Marker.ofDocument document <;>
      simp [readAnswer, read, Except.map, Except.mapError]

/-! ### The calls of a run by its commands -/

section

variable {driver : Driver} {made : List Made} {call : Call} {answer : call.Answer}

theorem sent_injective : Function.Injective Made.sent := by
  intro made other same
  cases made with
  | mk call reply =>
    cases other with
    | mk otherCall otherReply =>
      obtain ⟨commands, replies⟩ := Sent.mk.inj same
      exact congrArg₂ Made.mk (commandOf_injective commands) replies

theorem exchange_mem_iff {answer : Except Fault call.Answer} :
    ⟨call, answer⟩ ∈ made.map (Made.exchange driver) ↔
      ∃ reply, ⟨commandOf call, reply⟩ ∈ made.map Made.sent ∧
        answerOf call (Sent.outcome driver ⟨commandOf call, reply⟩) = answer := by
  constructor
  · intro member
    obtain ⟨⟨other, reply⟩, among, same⟩ := List.mem_map.1 member
    cases same
    exact ⟨reply, List.mem_map_of_mem among, rfl⟩
  · intro given
    obtain ⟨reply, member, rfl⟩ := given
    have among : ⟨call, reply⟩ ∈ made := (List.mem_map_of_injective sent_injective).1 member
    exact List.mem_map.2 ⟨_, among, rfl⟩

variable (driver made call)

theorem asked_iff_sent : Asked (made.map (Made.exchange driver)) call ↔
    ∃ sent ∈ made.map Made.sent, sent.command = commandOf call := by
  constructor
  · intro asked
    obtain ⟨exchange, member, rfl⟩ := List.mem_map.1 asked
    obtain ⟨here, among, rfl⟩ := List.mem_map.1 member
    exact ⟨here.sent, List.mem_map_of_mem among, rfl⟩
  · intro given
    obtain ⟨sent, member, same⟩ := given
    obtain ⟨here, among, rfl⟩ := List.mem_map.1 member
    rw [← commandOf_injective same]
    exact Asked.of_mem (List.mem_map_of_mem among)

theorem answered_write_iff (reads : ∀ result, readAnswer call result = .ok answer) :
    Answered (made.map (Made.exchange driver)) call answer ↔
      ∃ sent ∈ made.map Made.sent, sent.command = commandOf call ∧
        sent.Acknowledged driver := by
  unfold Answered
  rw [exchange_mem_iff]
  constructor
  · intro given
    obtain ⟨reply, member, answered⟩ := given
    exact ⟨_, member, rfl, (answerOf_write_ok_iff reads).1 answered⟩
  · intro given
    obtain ⟨⟨command, reply⟩, member, rfl, acknowledged⟩ := given
    exact ⟨reply, member, (answerOf_write_ok_iff reads).2 acknowledged⟩

theorem preceded_write_iff (reads : ∀ result, readAnswer call result = .ok answer) :
    Preceded (made.map (Made.exchange driver)) call ↔
      ∃ sent ∈ made.map Made.sent, sent.command = commandOf call ∧
        sent.FoundExisting driver := by
  constructor
  · intro given
    obtain ⟨fault, already, member⟩ := given
    obtain ⟨reply, among, failed⟩ := exchange_mem_iff.1 member
    obtain ⟨error, outcome, rfl⟩ := (answerOf_write_error_iff reads).1 failed
    exact ⟨_, among, rfl, error, outcome, error.isAlreadyExists_fault.1 already⟩
  · intro given
    obtain ⟨⟨command, reply⟩, member, rfl, error, outcome, tells⟩ := given
    refine ⟨error.fault, error.isAlreadyExists_fault.2 tells, ?_⟩
    refine exchange_mem_iff.2 ⟨reply, member, ?_⟩
    exact (answerOf_write_error_iff reads).2 ⟨error, outcome, rfl⟩

theorem answered_userExists_iff (documented : driver.Documented) (account : Account)
    (there : Bool) : Answered (made.map (Made.exchange driver))
        (.userExists account.database account.username) there ↔
      ∃ sent ∈ made.map Made.sent, ∃ users,
        sent.ListsUsers driver account users ∧ (!users.isEmpty) = there := by
  unfold Answered
  rw [exchange_mem_iff]
  constructor
  · intro given
    obtain ⟨reply, member, answered⟩ := given
    obtain ⟨result, outcome, read⟩ := answerOf_eq_ok_iff.1 answered
    obtain ⟨users, listed, same⟩ := readAnswer_userExists_iff.1 read
    cases reply with
    | error error => cases outcome
    | ok reply =>
      obtain rfl := documented.looked _ _ _ _ outcome
      exact ⟨_, member, users, ⟨⟨_, outcome⟩, _, rfl, listed⟩, same⟩
  · intro given
    obtain ⟨_, member, users, ⟨taken, reply, rfl, listed⟩, same⟩ := given
    obtain ⟨result, outcome⟩ := taken
    have echoed : result = reply := documented.looked _ _ _ _ outcome
    refine ⟨.ok reply, member, answerOf_eq_ok_iff.2 ⟨result, outcome, ?_⟩⟩
    rw [echoed]
    exact readAnswer_userExists_iff.2 ⟨users, listed, same⟩

theorem answered_findMarker_none_iff (database collection : String) :
    Answered (made.map (Made.exchange driver)) (.findMarker database collection) none ↔
      ∃ sent ∈ made.map Made.sent, sent.FindsNothing driver database collection := by
  unfold Answered
  rw [exchange_mem_iff]
  constructor
  · intro given
    obtain ⟨reply, member, answered⟩ := given
    obtain ⟨result, outcome, read⟩ := answerOf_eq_ok_iff.1 answered
    obtain rfl := readAnswer_findMarker_none_iff.1 read
    exact ⟨_, member, reply, rfl, outcome⟩
  · intro given
    obtain ⟨_, member, reply, rfl, outcome⟩ := given
    exact ⟨reply, member, answerOf_eq_ok_iff.2 ⟨none, outcome, rfl⟩⟩

end

end Remote

end Provision
