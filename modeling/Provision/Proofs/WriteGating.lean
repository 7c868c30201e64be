import Provision.Proofs.Answers
import Provision.Proofs.FirstDocument
import Provision.Proofs.Writes
/-!
What the replies of a server let a run write.

A user is created exactly after a look-up that listed nobody, and a marker is inserted exactly after
a look-up that found no document, if then its collection is there. Of all errors only the three
codes for something that is there already count as success, and any other error ends the run. The
server may reply anything, and the driver may be any that takes known replies as documented.
-/

namespace Provision

namespace Remote

/-- What the creation of a user tells of its run: what was sent before it and behind it, and how the
run ended. -/
structure CreationGated (driver : Driver) (request : Request) (earlier : List Sent)
    (creating : Sent) (later : List Sent) (result : Except Failure Report) : Prop where
  document : creating.command.document =
    [("createUser", .string request.account.username), ("pwd", .string request.account.password),
      ("roles", .array (request.account.grants.map fun grant =>
        .document [("role", .string grant.role), ("db", .string grant.database)])),
      ("$db", .string request.account.database)]
  absent : ∃ looking, earlier = [looking] ∧ looking.ListsUsers driver request.account []
  acknowledged : creating.Acknowledged driver → request.PastUser .created result
  existing : creating.FoundExisting driver → request.PastUser .alreadyPresent result
  refused : ∀ error, creating.outcome driver = .error error → ¬error.TellsExisting →
    later = [] ∧ result = .error
      (.grant request.account.username request.account.database error.fault.message)
  coded : ∀ code, creating.Refused code →
    (request.PastUser .alreadyPresent result ↔ ExistingCode code) ∧
    (¬ExistingCode code → later = [] ∧ ∃ message, result = .error
      (.grant request.account.username request.account.database message))

structure InsertionGated (driver : Driver) (request : Request) (collection : String)
    (earlier : List Sent) (inserting : Sent) (later : List Sent)
    (result : Except Failure Report) : Prop where
  planned : ∃ version, request.plan = .seed collection version ∧ inserting.command =
    .insert request.target collection (Marker.toDocument ⟨version, request.stamp, false⟩)
  prepared : ∃ first finding ensuring, earlier = first ++ [finding, ensuring] ∧
    finding.FindsNothing driver request.target collection ∧
    ensuring.command = .create request.target collection ∧
    (ensuring.Acknowledged driver ∨ ensuring.FoundExisting driver)
  last : later = []
  acknowledged : inserting.Acknowledged driver → ∃ user, result = .ok ⟨user, .seeded⟩
  existing : inserting.FoundExisting driver → ∃ user, result = .ok ⟨user, .alreadyPresent⟩
  refused : ∀ error, inserting.outcome driver = .error error → ¬error.TellsExisting →
    result = .error (.marker request.target collection error.fault.message)
  coded : ∀ code, inserting.Refused code →
    ((∃ user, result = .ok ⟨user, .alreadyPresent⟩) ↔ ExistingCode code) ∧
    (¬ExistingCode code → ∃ message, result = .error (.marker request.target collection message))

/-- By the replies so far there is a user: one was listed or created, or there was one already. -/
def UserThere (driver : Driver) (account : Account) (commands : List Sent) : Prop :=
  (∃ looking ∈ commands, ∃ users, looking.ListsUsers driver account users ∧ users ≠ []) ∨
    ∃ creating ∈ commands, creating.command = .createUser account ∧
      (creating.Acknowledged driver ∨ creating.FoundExisting driver)

/-- What the commands of a run and the replies to them settle about its writes and its report. -/
structure WritesGated (driver : Driver) (request : Request) (opening : Except Fault Client)
    (commands : List Sent) (result : Except Failure Report) : Prop where
  once : (commands.map fun sent => sent.command.name).Nodup
  looks : (∃ looking ∈ commands, looking.command =
      .usersInfo request.account.database request.account.username) ↔
    (∃ client, opening = .ok client) ∧ request.account.check request.target = .ok ()
  creates : (∃ creating ∈ commands, creating.command = .createUser request.account) ↔
    ∃ looking ∈ commands, looking.ListsUsers driver request.account []
  creation : ∀ earlier creating later account, commands = earlier ++ creating :: later →
    creating.command = .createUser account →
      CreationGated driver request earlier creating later result
  created : ∀ report, result = .ok report → (report.user = .created ↔
    ∃ creating ∈ commands, creating.command = .createUser request.account ∧
      creating.Acknowledged driver)
  finds : ∀ database collection,
    (∃ finding ∈ commands, finding.command = .find database collection) ↔
      UserThere driver request.account commands ∧ database = request.target ∧
        ∃ version, request.plan = .seed collection version ∧ collection ≠ "" ∧ version ≠ ""
  ensures : ∀ database collection,
    (∃ ensuring ∈ commands, ensuring.command = .create database collection) ↔
      ∃ finding ∈ commands, finding.FindsNothing driver database collection
  inserts : ∀ database collection,
    (∃ inserting ∈ commands, ∃ document,
      inserting.command = .insert database collection document) ↔
    ∃ ensuring ∈ commands, ensuring.command = .create database collection ∧
      (ensuring.Acknowledged driver ∨ ensuring.FoundExisting driver)
  insertion : ∀ earlier inserting later database collection document,
    commands = earlier ++ inserting :: later →
      inserting.command = .insert database collection document →
        InsertionGated driver request collection earlier inserting later result
  /-- A reply without a list of users ends the run, also one that the driver does not take. -/
  unlisted : ∀ looking ∈ commands, ∀ database username reply,
    looking = ⟨.usersInfo database username, .ok reply⟩ →
      (∀ users, reply.get? "users" ≠ some (.array users)) →
        commands = [looking] ∧ ∃ fault : Fault, result = .error
          (.grant request.account.username request.account.database fault.message) ∧
          (looking.Acknowledged driver → ∃ field : Bson.FieldFault,
            fault = unexpectedReply looking.command field)

/-- A reply without a list of users is a fault, whatever the driver makes of it. -/
theorem answerOf_unlisted {driver : Driver} (documented : driver.Documented)
    (database username : String) {reply : Bson.Document}
    (unlisted : ∀ users, reply.get? "users" ≠ some (.array users)) :
    ∃ fault : Fault, answerOf (.userExists database username)
        (driver.take (.usersInfo database username) reply) = .error fault ∧
      ((∃ result, driver.take (.usersInfo database username) reply = .ok result) →
        ∃ field, fault = unexpectedReply (.usersInfo database username) field) := by
  cases taken : driver.take (.usersInfo database username) reply with
  | error error => exact ⟨error.fault, rfl, nofun⟩
  | ok result =>
    obtain rfl := documented.looked _ _ _ _ taken
    cases listed : Bson.Document.read result "users" Bson.asArray with
    | error field =>
      refine ⟨unexpectedReply (.usersInfo database username) field, ?_, fun _ => ⟨field, rfl⟩⟩
      simp only [answerOf, readAnswer, listed, Except.map, Except.mapError]
    | ok users =>
      obtain ⟨value, field, array⟩ := Bson.Document.read_eq_ok_iff.1 listed
      rw [Bson.asArray_eq_some_iff.1 array] at field
      exact absurd field (unlisted users)

theorem eq_insertMarker_of_commandOf {call : Call} {database collection : String}
    {document : Bson.Document} (sent : commandOf call = .insert database collection document) :
    ∃ marker, call = .insertMarker database collection marker ∧ document = marker.toDocument := by
  cases call <;> simp_all [commandOf]

section

variable {driver : Driver} {made : List Made} {earlier later : List Sent} {sent : Sent}

theorem made_of_split (split : made.map Made.sent = earlier ++ sent :: later) :
    ∃ before call reply after, made = before ++ ⟨call, reply⟩ :: after ∧
      sent = ⟨commandOf call, reply⟩ ∧
      before.map Made.sent = earlier ∧ after.map Made.sent = later := by
  obtain ⟨before, rest, rfl, first, tail⟩ := List.map_eq_append_iff.1 split
  obtain ⟨here, after, rfl, same, last⟩ := List.map_eq_cons_iff.1 tail
  exact ⟨before, here.call, here.reply, after, rfl, same.symm, first, last⟩

theorem exchanges_append (before after : List Made) (call : Call)
    (reply : Except DriverError Bson.Document) :
    (before ++ ⟨call, reply⟩ :: after).map (Made.exchange driver) =
      before.map (Made.exchange driver) ++
        ⟨call, answerOf call (Sent.outcome driver ⟨commandOf call, reply⟩)⟩ ::
        after.map (Made.exchange driver) := by
  rw [List.map_append, List.map_cons]
  rfl

theorem made_of_exchange {made : Made} {call : Call} {answer : Except Fault call.Answer}
    (same : made.exchange driver = ⟨call, answer⟩) :
    ∃ reply, made = ⟨call, reply⟩ ∧
      answerOf call (Sent.outcome driver ⟨commandOf call, reply⟩) = answer := by
  cases made with
  | mk other reply =>
    cases same
    exact ⟨reply, rfl, rfl⟩

end

section

variable {S : Type} {driver : Driver} {request : Request} {opening : Except Fault S}
variable {made : List Made} {result : Except Failure Report}

theorem userEnded_iff (documented : driver.Documented) :
    (∃ outcome, UserEnded (made.map (Made.exchange driver)) request.account outcome) ↔
      UserThere driver request.account (made.map Made.sent) := by
  have listed := answered_userExists_iff driver made documented request.account true
  have created := answered_write_iff driver made (.createUser request.account) fun _ => rfl
  have preceded := preceded_write_iff driver made (.createUser request.account) fun _ => rfl
  unfold UserThere
  constructor
  · intro ended
    obtain ⟨outcome, ended⟩ := ended
    cases outcome with
    | created =>
      obtain ⟨creating, member, same, acknowledged⟩ := created.1 ended
      exact .inr ⟨creating, member, same, .inl acknowledged⟩
    | alreadyPresent =>
      rcases ended with there | before
      · obtain ⟨looking, member, users, lists, some⟩ := listed.1 there
        exact .inl ⟨looking, member, users, lists, by rintro rfl; cases some⟩
      · obtain ⟨creating, member, same, existing⟩ := preceded.1 before
        exact .inr ⟨creating, member, same, .inr existing⟩
  · intro there
    rcases there with ⟨looking, member, users, lists, some⟩ | ⟨creating, member, same, ended⟩
    · refine ⟨.alreadyPresent, .inl (listed.2 ⟨looking, member, users, lists, ?_⟩)⟩
      simpa using some
    · rcases ended with acknowledged | existing
      · exact ⟨.created, created.2 ⟨creating, member, same, acknowledged⟩⟩
      · exact ⟨.alreadyPresent, .inr (preceded.2 ⟨creating, member, same, existing⟩)⟩

variable (dialogue : RunDialogue request opening (made.map (Made.exchange driver)) result)
include dialogue

theorem sent_once : ((made.map Made.sent).map fun sent => sent.command.name).Nodup := by
  obtain ⟨found, script⟩ := dialogue.inOrder.script
  have names : (made.map Made.sent).map (fun sent => sent.command.name) =
      ((made.map (Made.exchange driver)).map Exchange.op).map fun call =>
        (commandOf call).name := by
    simp only [List.map_map]
    rfl
  rw [names]
  apply ((script.map _).sublist).nodup
  unfold Request.userScript Request.planScript
  cases request.plan <;> cases found <;> simp [commandOf, ServerCommand.name]

theorem looks_iff : (∃ looking ∈ made.map Made.sent, looking.command =
      .usersInfo request.account.database request.account.username) ↔
    (∃ session, opening = .ok session) ∧ request.account.check request.target = .ok () := by
  have asked := asked_iff_sent driver made
    (.userExists request.account.database request.account.username)
  rw [← dialogue.inStages.begun]
  refine asked.symm.trans ⟨?_, ?_⟩
  · intro looked none
    rw [none] at looked
    cases looked
  · intro some
    obtain ⟨found, script⟩ := dialogue.inOrder.script
    obtain ⟨first, rest, calls⟩ := List.exists_cons_of_ne_nil some
    rw [calls] at script ⊢
    obtain ⟨same, -⟩ := List.cons_prefix_cons.1 script
    exact List.mem_cons.2 (.inl same.symm)

theorem creates_iff (documented : driver.Documented) :
    (∃ creating ∈ made.map Made.sent, creating.command = .createUser request.account) ↔
      ∃ looking ∈ made.map Made.sent, looking.ListsUsers driver request.account [] := by
  have asked := asked_iff_sent driver made (.createUser request.account)
  rw [show ServerCommand.createUser request.account = commandOf (.createUser request.account)
    from rfl, ← asked, dialogue.inOrder.creating, answered_userExists_iff driver made documented]
  simp

theorem finds_iff (documented : driver.Documented) (database collection : String) :
    (∃ finding ∈ made.map Made.sent, finding.command = .find database collection) ↔
      UserThere driver request.account (made.map Made.sent) ∧ database = request.target ∧
        ∃ version, request.plan = .seed collection version ∧ collection ≠ "" ∧ version ≠ "" := by
  have asked := asked_iff_sent driver made (.findMarker database collection)
  rw [← userEnded_iff documented]
  exact asked.symm.trans (dialogue.inOrder.looking database collection)

theorem ensures_iff (database collection : String) :
    (∃ ensuring ∈ made.map Made.sent, ensuring.command = .create database collection) ↔
      ∃ finding ∈ made.map Made.sent, finding.FindsNothing driver database collection := by
  have asked := asked_iff_sent driver made (.ensureCollection database collection)
  rw [← answered_findMarker_none_iff]
  exact asked.symm.trans (dialogue.inOrder.ensuring database collection)

theorem inserts_iff (database collection : String) :
    (∃ inserting ∈ made.map Made.sent, ∃ document,
      inserting.command = .insert database collection document) ↔
    ∃ ensuring ∈ made.map Made.sent, ensuring.command = .create database collection ∧
      (ensuring.Acknowledged driver ∨ ensuring.FoundExisting driver) := by
  have acknowledged := answered_write_iff driver made (.ensureCollection database collection)
    fun _ => rfl
  have existing := preceded_write_iff driver made (.ensureCollection database collection)
    fun _ => rfl
  have inserting : (∃ inserting ∈ made.map Made.sent, ∃ document,
      inserting.command = .insert database collection document) ↔
      ∃ marker, Asked (made.map (Made.exchange driver))
        (.insertMarker database collection marker) := by
    constructor
    · intro sent
      obtain ⟨inserting, member, document, same⟩ := sent
      obtain ⟨here, among, rfl⟩ := List.mem_map.1 member
      obtain ⟨marker, call, -⟩ := eq_insertMarker_of_commandOf same
      exact ⟨marker, (asked_iff_sent driver made _).2 ⟨here.sent, member, congrArg commandOf call⟩⟩
    · intro asked
      obtain ⟨marker, asked⟩ := asked
      obtain ⟨sent, member, same⟩ := (asked_iff_sent driver made _).1 asked
      exact ⟨sent, member, marker.toDocument, same⟩
  rw [inserting, dialogue.inOrder.inserting, acknowledged, existing, ← exists_or]
  apply exists_congr
  intro sent
  rw [← and_or_left, ← and_or_left]
  rfl

theorem creation_gated (documented : driver.Documented) {earlier later : List Sent}
    {creating : Sent} {account : Account}
    (split : made.map Made.sent = earlier ++ creating :: later)
    (sent : creating.command = .createUser account) :
    CreationGated driver request earlier creating later result := by
  obtain ⟨before, call, reply, after, rfl, rfl, rfl, rfl⟩ := made_of_split split
  obtain rfl : call = .createUser account := commandOf_injective sent
  obtain ⟨rfl, look, ended⟩ := dialogue.around_creation (exchanges_append before after _ reply)
  have existing : Sent.FoundExisting driver ⟨commandOf (.createUser request.account), reply⟩ →
      request.PastUser .alreadyPresent result := by
    intro existing
    obtain ⟨error, got, tells⟩ := existing
    have already := error.isAlreadyExists_fault.2 tells
    rw [answerOf_of_error got, Account.creationResult,
      writeResult_of_already _ _ _ already] at ended
    obtain ⟨ending, plan, rfl⟩ := ended
    exact plan.pastUser .alreadyPresent
  have refused : ∀ error,
      Sent.outcome driver ⟨commandOf (.createUser request.account), reply⟩ = .error error →
        ¬error.TellsExisting → after.map Made.sent = [] ∧ result = .error
          (.grant request.account.username request.account.database error.fault.message) := by
    intro error got other
    have unlike := DriverError.isAlreadyExists_fault_of_not other
    rw [answerOf_of_error got, Account.creationResult, writeResult_of_other _ _ _ unlike] at ended
    obtain ⟨last, failed⟩ := ended
    exact ⟨by rw [List.map_eq_nil_iff.1 last]; rfl, failed⟩
  constructor
  case document => rfl
  case absent =>
    obtain ⟨looking, rfl, looked⟩ := List.map_eq_singleton_iff.1 look
    have nobody : Answered [looking.exchange driver]
        (.userExists request.account.database request.account.username) false := by
      rw [looked]
      exact .head _
    obtain ⟨found, member, users, lists, empty⟩ :=
      (answered_userExists_iff driver [looking] documented _ _).1 nobody
    obtain rfl := List.mem_singleton.1 member
    obtain rfl : users = [] := by simpa using empty
    exact ⟨looking.sent, rfl, lists⟩
  case acknowledged =>
    intro acknowledged
    rw [answerOf_of_acknowledged (fun _ => rfl) acknowledged] at ended
    obtain ⟨ending, plan, rfl⟩ := ended
    exact plan.pastUser .created
  case existing => exact existing
  case refused => exact refused
  case coded =>
    intro code coded
    obtain ⟨there, stops⟩ := coded.settles documented existing refused <| by
      intro error ended past
      rw [ended.2] at past
      obtain ⟨collection, message, same⟩ := past
      cases same
    refine ⟨there, fun unlike => ?_⟩
    obtain ⟨error, last, failed⟩ := stops unlike
    exact ⟨last, _, failed⟩

theorem insertion_gated (documented : driver.Documented) {earlier later : List Sent}
    {inserting : Sent} {database collection : String} {document : Bson.Document}
    (split : made.map Made.sent = earlier ++ inserting :: later)
    (sent : inserting.command = .insert database collection document) :
    InsertionGated driver request collection earlier inserting later result := by
  obtain ⟨before, call, reply, after, rfl, rfl, rfl, rfl⟩ := made_of_split split
  obtain ⟨marker, rfl, rfl⟩ := eq_insertMarker_of_commandOf sent
  obtain ⟨rfl, ⟨version, plan, rfl⟩, last, ⟨user, ended⟩, calls, ensured, tolerated, prepared⟩ :=
    dialogue.around_insertion (exchanges_append before after _ reply)
  obtain ⟨first, rest, rfl, -, prepared⟩ := List.map_eq_append_iff.1 prepared
  obtain ⟨finding, rest, rfl, found, prepared⟩ := List.map_eq_cons_iff.1 prepared
  obtain ⟨ensuring, rfl, created⟩ := List.map_eq_singleton_iff.1 prepared
  let inserted : Call :=
    .insertMarker request.target collection (.fresh version request.stamp)
  have existing : Sent.FoundExisting driver ⟨commandOf inserted, reply⟩ →
      ∃ user, result = .ok ⟨user, .alreadyPresent⟩ := by
    intro existing
    obtain ⟨error, got, tells⟩ := existing
    have already := error.isAlreadyExists_fault.2 tells
    rw [answerOf_of_error got, seedingResult, writeResult_of_already _ _ _ already] at ended
    exact ⟨user, ended⟩
  have refused : ∀ error, Sent.outcome driver ⟨commandOf inserted, reply⟩ = .error error →
      ¬error.TellsExisting →
        result = .error (.marker request.target collection error.fault.message) := by
    intro error got other
    have unlike := DriverError.isAlreadyExists_fault_of_not other
    rw [answerOf_of_error got, seedingResult, writeResult_of_other _ _ _ unlike] at ended
    exact ended
  constructor
  case planned => exact ⟨version, plan, rfl⟩
  case prepared =>
    refine ⟨first.map Made.sent, finding.sent, ensuring.sent, List.map_append, ?_, ?_, ?_⟩
    · have nothing : Answered [finding.exchange driver]
          (.findMarker request.target collection) none := by
        rw [found]
        exact .head _
      obtain ⟨sent, member, finds⟩ :=
        (answered_findMarker_none_iff driver [finding] _ _).1 nothing
      rwa [List.mem_singleton.1 member] at finds
    · obtain ⟨reply, rfl, -⟩ := made_of_exchange created
      rfl
    · obtain ⟨creation, rfl, answered⟩ := made_of_exchange created
      cases got : Sent.outcome driver ⟨commandOf (.ensureCollection request.target collection),
          creation⟩ with
      | ok result => exact .inl ⟨result, got⟩
      | error error =>
        rw [answerOf_of_error got] at answered
        have already := tolerated _ answered.symm
        exact .inr ⟨error, got, error.isAlreadyExists_fault.1 already⟩
  case last => rw [List.map_eq_nil_iff.1 last]; rfl
  case acknowledged =>
    intro acknowledged
    rw [answerOf_of_acknowledged (fun _ => rfl) acknowledged] at ended
    exact ⟨user, ended⟩
  case existing => exact existing
  case refused => exact refused
  case coded =>
    intro code coded
    obtain ⟨there, stops⟩ := coded.settles documented existing refused <| by
      intro error ended found
      obtain ⟨user, found⟩ := found
      cases ended.symm.trans found
    refine ⟨there, fun unlike => ?_⟩
    obtain ⟨error, failed⟩ := stops unlike
    exact ⟨_, failed⟩

theorem created_iff (documented : driver.Documented) {report : Report}
    (reported : result = .ok report) :
    report.user = .created ↔ ∃ creating ∈ made.map Made.sent,
      creating.command = .createUser request.account ∧ creating.Acknowledged driver := by
  constructor
  · intro created
    obtain ⟨ended, -⟩ := (dialogue.inStages.success report).1 reported
    rw [created] at ended
    exact (answered_write_iff driver made _ fun _ => rfl).1 ended
  · rintro ⟨creating, member, sent, acknowledged⟩
    obtain ⟨earlier, later, split⟩ := List.append_of_mem member
    have past := (creation_gated dialogue documented split sent).acknowledged acknowledged
    rw [reported] at past
    exact past

theorem unlisted_ends (documented : driver.Documented) {looking : Sent}
    {database username : String} {reply : Bson.Document}
    (looked : looking ∈ made.map Made.sent)
    (sent : looking = ⟨.usersInfo database username, .ok reply⟩)
    (unlisted : ∀ users, reply.get? "users" ≠ some (.array users)) :
    made.map Made.sent = [looking] ∧ ∃ fault : Fault, result = .error
      (.grant request.account.username request.account.database fault.message) ∧
      (looking.Acknowledged driver → ∃ field : Bson.FieldFault,
        fault = unexpectedReply looking.command field) := by
  subst sent
  obtain ⟨fault, answered, read⟩ := answerOf_unlisted documented database username unlisted
  have failing : ⟨.userExists database username, .error fault⟩ ∈
      made.map (Made.exchange driver) :=
    exchange_mem_iff.2 ⟨.ok reply, looked, answered⟩
  obtain ⟨alone, failed⟩ := dialogue.unseen failing
  obtain ⟨only, rfl, -⟩ := List.map_eq_singleton_iff.1 alone
  refine ⟨?_, fault, failed, read⟩
  rw [List.mem_singleton.1 looked]
  rfl

end

/-- A run against a server that may answer anything writes what was requested and no more, each
write exactly after replies that call for it, and reports what the replies to its writes say. -/
theorem writes_are_gated {σ : Type} (driver : Driver) (documented : driver.Documented)
    (server : ServerSettings) (handler : Handler RawWire σ) (state : σ) (request : Request) :
    WritesGated driver request
      (driver.answering server handler (.openSession request.scope request.admin) state).1
      (((driver.onServer server request.provision).trace handler state).filterMap sentIn)
      ((driver.onServer server request.provision).run handler state).value := by
  obtain ⟨made, commands, calls⟩ := commands_of_calls driver server handler request.provision state
  obtain ⟨opening, first, dialogue⟩ :=
    provision_dialogue (driver.answering server handler) state request
  obtain rfl : (driver.answering server handler
      (.openSession request.scope request.admin) state).1 = opening := by
    simpa [Request.provision, withSession, Program.trace] using first
  rw [calls, ← onServer_value] at dialogue
  rw [commands]
  exact {
    once := sent_once dialogue
    looks := looks_iff dialogue
    creates := creates_iff dialogue documented
    creation := fun _ _ _ _ split sent => creation_gated dialogue documented split sent
    created := fun _ reported => created_iff dialogue documented reported
    finds := finds_iff dialogue documented
    ensures := ensures_iff dialogue
    inserts := inserts_iff dialogue
    insertion := fun _ _ _ _ _ _ split sent => insertion_gated dialogue documented split sent
    unlisted := fun _ member _ _ _ sent unlisted =>
      unlisted_ends dialogue documented member sent unlisted }

/-! ### A run that comes second -/

def refusalReply (code : Int32) (codeName message : String) : Bson.Document :=
  [("ok", .double ⟨0⟩), ("errmsg", .string message), ("code", .int32 code),
    ("codeName", .string codeName)]

/-- Lists nobody and finds no document, but has the user and the collection once they are to be
created. -/
def contestedReply : ServerCommand → Bson.Document
  | .usersInfo .. => [("users", .array []), ("ok", .int32 1)]
  | .createUser _ => refusalReply 51003 "Location51003" "there is a user dev@app"
  | .find database collection =>
    [("cursor", .document [("id", .int64 0), ("ns", .string (database ++ "." ++ collection)),
      ("firstBatch", .array [])]), ("ok", .int32 1)]
  | .create .. => refusalReply 48 "NamespaceExists" "there is a collection app.description"
  | .insert .. => [("n", .int32 1), ("ok", .int32 1)]
  | _ => [("ok", .int32 1)]

def contested : Handler RawWire Unit
  | .connect .., () => (.ok (), ())
  | .login .., () => (.ok (), ())
  | .command _ sent, () => (.ok (contestedReply sent), ())
  | .disconnect _, () => ((), ())
  | .pause _, () => ((), ())

theorem reply_of_contested {α : Type} {program : Program RawWire α} {sent : Sent}
    (member : sent ∈ (program.trace contested ()).filterMap sentIn) :
    sent.reply = .ok (contestedReply sent.command) := by
  obtain ⟨exchange, among, same⟩ := List.mem_filterMap.1 member
  cases exchange with
  | mk op reply =>
    obtain ⟨before, -, answered, -⟩ := @Program.answered_of_mem_trace RawWire α Unit contested
      (fun _ => True) (fun _ _ _ => trivial) program () trivial op reply among
    cases op with
    | command client command =>
      obtain rfl : Except.ok (contestedReply command) = reply := answered
      cases command with
      | ping => cases same
      | _ => cases same; rfl
    | connect | login | disconnect | pause => cases same

theorem contested_opens :
    (Driver.standard.answering Settings.sample.server contested
      (.openSession "admin" ⟨"root", "secret"⟩) ()).1 = .ok ⟨"admin", "root"⟩ := by
  simp only [Driver.answering, Program.carriedOut, means, retry, attempts_left, Retry.attemptFrom,
    Program.via_bind, connectOnce, Program.via, Program.run_bind, Driver.means, Driver.pass,
    Program.bind_perform, Program.run, contested]
  rfl

/-- The user and the collection count as there, and the document is inserted all the same. -/
theorem contested_run_inserts :
    let program := Driver.standard.onServer Settings.sample.server Request.sample.provision
    let commands := (program.trace contested ()).filterMap sentIn
    (∃ creating ∈ commands, creating.command = .createUser Request.sample.account) ∧
    (∃ inserting ∈ commands, ∃ document,
      inserting.command = .insert "app" "description" document) ∧
    (program.run contested ()).value = .ok ⟨.alreadyPresent, .seeded⟩ := by
  intro program commands
  have known := Driver.standard_documented
  have gated := writes_are_gated Driver.standard known Settings.sample.server contested ()
    Request.sample
  have replied : ∀ sent ∈ commands, sent.reply = .ok (contestedReply sent.command) :=
    fun sent member => reply_of_contested member
  have reply_of {command : ServerCommand} {sent : Sent} (member : sent ∈ commands)
      (same : sent.command = command) : sent = ⟨command, .ok (contestedReply command)⟩ := by
    cases sent with
    | mk other reply =>
      obtain rfl : other = command := same
      exact congrArg (Sent.mk other) (replied _ member)
  obtain ⟨looking, looked, look⟩ := gated.looks.2 ⟨⟨_, contested_opens⟩, by cbv⟩
  have nobody : looking.ListsUsers Driver.standard Request.sample.account [] := by
    rw [reply_of looked look]
    exact Sent.listsUsers_of_reply known ⟨_, rfl, rfl⟩ rfl
  obtain ⟨creating, created, creation⟩ := gated.creates.2 ⟨looking, looked, nobody⟩
  have user : creating.Refused 51003 := by
    rw [reply_of created creation]
    exact .command ⟨⟨_, rfl, rfl⟩, rfl, rfl, rfl⟩
  have there : UserThere Driver.standard Request.sample.account commands :=
    .inr ⟨creating, created, creation, .inr (Sent.foundExisting_of_refused known user (by decide))⟩
  obtain ⟨finding, found, find⟩ := (gated.finds "app" "description").2
    ⟨there, rfl, "1.0", rfl, by decide, by decide⟩
  have nothing : finding.FindsNothing Driver.standard "app" "description" := by
    rw [reply_of found find]
    exact Sent.findsNothing_of_lists known ⟨⟨_, rfl, rfl⟩, _, rfl, rfl, rfl, rfl⟩
  obtain ⟨ensuring, ensured, ensure⟩ := (gated.ensures "app" "description").2
    ⟨finding, found, nothing⟩
  have collection : ensuring.Refused 48 := by
    rw [reply_of ensured ensure]
    exact .command ⟨⟨_, rfl, rfl⟩, rfl, rfl, rfl⟩
  obtain ⟨inserting, inserted, document, insert⟩ := (gated.inserts "app" "description").2
    ⟨ensuring, ensured, ensure, .inr (Sent.foundExisting_of_refused known collection (by decide))⟩
  have acknowledged : inserting.Acknowledged Driver.standard := by
    rw [reply_of inserted insert]
    exact (Sent.Accepted.document ⟨⟨_, rfl, rfl⟩, rfl, rfl⟩ rfl).acknowledged known
  refine ⟨⟨creating, created, creation⟩, ⟨inserting, inserted, document, insert⟩, ?_⟩
  obtain ⟨first, later, around⟩ := List.append_of_mem inserted
  obtain ⟨outcome, ended⟩ := (gated.insertion _ _ _ _ _ _ around insert).acknowledged acknowledged
  obtain ⟨earlier, rest, split⟩ := List.append_of_mem created
  have past := ((gated.creation _ _ _ _ split creation).coded 51003 user).1.2 (by decide)
  rw [ended] at past ⊢
  obtain rfl : outcome = .alreadyPresent := past
  rfl

end Remote

end Provision
