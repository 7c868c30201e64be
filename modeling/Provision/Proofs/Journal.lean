import Mathlib
import Provision.Proofs.Alone
import Provision.Proofs.Closing
import Provision.Proofs.Dialogue
import Provision.Scripted
/-!
The log of a provisioning run, against what was exchanged and how the run ended.

A write that was answered well owes the log one event, and the program pays before it asks for
anything else. So a log never tells of a write that was not carried out and leaves out none that
was, even if the run fails behind it. The last event is the verdict, unless no session was opened.
-/

namespace Provision

/-! ### Accounts -/

namespace Program

variable {I : Interface} {α β σ : Type}

/-- Among its events the program has one for each exchange that owes one, written before anything
else is asked, and no others of that kind. -/
def Accounts (about : Event → Bool) (owed : Exchange I → Option Event) :
    Program I α → Option Event → Prop
  | .done _, due => due = none
  | .emit event rest, due =>
    match about event with
    | true => due = some event ∧ Accounts about owed rest none
    | false => Accounts about owed rest due
  | .perform op next, due =>
    due = none ∧ ∀ reply, Accounts about owed (next reply) (owed ⟨op, reply⟩)

variable {about : Event → Bool} {owed : Exchange I → Option Event} {program : Program I α}
variable {due : Option Event}

theorem Accounts.bind {next : α → Program I β} (first : program.Accounts about owed due)
    (later : ∀ value, (next value).Accounts about owed none) :
    (program.bind next).Accounts about owed due := by
  induction program generalizing due with
  | done value =>
    obtain rfl : due = none := first
    exact later value
  | emit event rest ih =>
    simp only [bind_emit, Accounts] at first ⊢
    cases kind : about event with
    | true =>
      rw [kind] at first
      exact ⟨first.1, ih first.2⟩
    | false =>
      rw [kind] at first
      exact ih first
  | perform op next ih => exact ⟨first.1, fun reply => ih reply (first.2 reply)⟩

/-- In a run the events of the kind are those that the exchanges owe, in their order. -/
theorem Accounts.filter_log (accounts : program.Accounts about owed due) (handler : Handler I σ)
    (state : σ) :
    (program.run handler state).log.filter about =
      due.toList ++ (program.trace handler state).filterMap owed := by
  induction program generalizing due state with
  | done value =>
    obtain rfl : due = none := accounts
    rfl
  | emit event rest ih =>
    simp only [Accounts] at accounts
    simp only [run, trace]
    cases kind : about event with
    | true =>
      rw [kind] at accounts
      obtain ⟨rfl, later⟩ := accounts
      rw [List.filter_cons_of_pos kind, ih later]
      rfl
    | false =>
      rw [kind] at accounts
      rw [List.filter_cons_of_neg (by simp [kind]), ih accounts]
  | perform op next ih =>
    obtain ⟨rfl, later⟩ := accounts
    simp only [run, trace, ih _ (later _)]
    cases answer : owed ⟨op, (handler op state).1⟩ with
    | none => simp [answer]
    | some event => simp [answer]

theorem run_of_answered {τ : Type} {handler : Handler I σ} {other : Handler I τ} {state : σ}
    {start : τ}
    (agree : AnsweredAlike (fun _ => Eq) (program.trace handler state)
      (program.trace other start)) :
    (program.run handler state).log = (program.run other start).log ∧
      (program.run handler state).value = (program.run other start).value := by
  induction program generalizing state start with
  | done value => exact ⟨rfl, rfl⟩
  | emit event rest ih =>
    obtain ⟨logs, values⟩ := ih agree
    exact ⟨congrArg (event :: ·) logs, values⟩
  | perform op next ih =>
    have replies : (handler op state).1 = (other op start).1 := agree 0 op _ _ rfl rfl
    have later := agree.tail
    simp only [run] at later ⊢
    rw [← replies] at later ⊢
    exact ih _ later

end Program

/-! ### The words of events -/

def Leads (words text : String) : Prop :=
  ∃ rest, text = words ++ rest

theorem Leads.refl (words : String) : Leads words words :=
  ⟨"", (String.append_empty).symm⟩

theorem Leads.append {words text : String} (leads : Leads words text) (more : String) :
    Leads words (text ++ more) := by
  obtain ⟨rest, rfl⟩ := leads
  exact ⟨rest ++ more, String.append_assoc ..⟩

namespace Event

def begins (event : Event) (words : String) : Bool :=
  words.toList.isPrefixOf event.message.toList

/-- Going by its words, the event tells of a write that was carried out. -/
def tellsWrite (event : Event) : Bool :=
  event.begins "user=created" || event.begins "collection=created" ||
    event.begins "marker=seeded"

def tellsEnd (event : Event) : Bool :=
  event.begins "bootstrap=done" || event.begins "bootstrap=failed"

def warnsOfClose (event : Event) : Bool :=
  event.begins "Failed to close datastore session"

/-- What an operator gets to read of the event. -/
def told (event : Event) : Level × String × List (String × String) :=
  (event.level, event.message, event.fields)

def opening : Event → String
  | .commandStarted .. => "bootstrap=orchestrate command="
  | .commandFinished .. | .runFinished .. => "bootstrap=done target_db="
  | .runStarted .. => "bootstrap=start scope="
  | .runFailed .. => "bootstrap=failed target_db="
  | .closeFailed .. => "Failed to close datastore session"
  | .userPresent .. | .userCreatedMeanwhile .. => "user=present target_db="
  | .userCreated .. => "user=created target_db="
  | .markerSkipped => "marker=skipped"
  | .markerPresent .. | .markerSeededMeanwhile .. => "marker=present db="
  | .collectionCreated .. => "collection=created db="
  | .markerSeeded .. => "marker=seeded db="
  | .loginVerified .. => "verify=ok target_db="
  | .loginNotVerified => "verify=skipped"
  | .statusReported .. => "status=done target_db="
  | .attemptFailed .. => "connection_retry=failed attempt="
  | .attemptSucceeded .. => "connection_retry=success attempts="
  | .sessionOpened .. => "session=open address="

theorem message_opens (event : Event) : Leads event.opening event.message := by
  cases event
  all_goals
    repeat' first
      | exact Leads.refl _
      | apply Leads.append

def isWrite : Event → Bool
  | .userCreated .. | .collectionCreated .. | .markerSeeded .. => true
  | _ => false

def isVerdict : Event → Bool
  | .commandFinished .. | .runFinished .. | .runFailed .. => true
  | _ => false

def isWarning : Event → Bool
  | .closeFailed .. => true
  | _ => false

/-- The words of an event give its kind away. -/
theorem told_kinds (event : Event) :
    event.tellsWrite = event.isWrite ∧ event.tellsEnd = event.isVerdict ∧
      event.warnsOfClose = event.isWarning := by
  obtain ⟨rest, message⟩ := event.message_opens
  unfold tellsWrite tellsEnd warnsOfClose begins
  rw [message]
  cases event <;>
    simp [opening, isWrite, isVerdict, isWarning, String.toList_append, List.isPrefixOf]

theorem tellsWrite_eq : tellsWrite = isWrite :=
  funext fun event => event.told_kinds.1

theorem tellsEnd_eq : tellsEnd = isVerdict :=
  funext fun event => event.told_kinds.2.1

theorem warnsOfClose_eq : warnsOfClose = isWarning :=
  funext fun event => event.told_kinds.2.2

def matters (event : Event) : Bool :=
  event.isWrite || event.isVerdict || event.isWarning

end Event

/-! ### What a run tells -/

/-- What is to be read of a write that was answered well. -/
def Exchange.writeTold : Exchange Calls → Option (Level × String × List (String × String))
  | ⟨.createUser account, .ok ()⟩ => some
    (.info, s!"user=created target_db={account.database} username={account.username}",
      [("roles", Text.listing (account.grants.map fun grant => Text.quoted grant.written))])
  | ⟨.ensureCollection database collection, .ok ()⟩ => some
    (.debug, s!"collection=created db={database} collection={collection}", [])
  | ⟨.insertMarker database collection marker, .ok ()⟩ => some
    (.info, s!"marker=seeded db={database} collection={collection}",
      [("version", marker.version), ("at", toString marker.stamp.toInt)])
  | _ => none

def Exchange.closeTold {S : Type} :
    Exchange (Store S) → Option (Level × String × List (String × String))
  | ⟨.close _, .error fault⟩ => some
    (.warn, "Failed to close datastore session",
      [("error", fault.message), ("operation", "bootstrap")])
  | _ => none

def Exchange.writeOwed : Exchange Calls → Option Event
  | ⟨.createUser account, .ok ()⟩ =>
    some (.userCreated account.database account.username account.grants)
  | ⟨.ensureCollection database collection, .ok ()⟩ => some (.collectionCreated database collection)
  | ⟨.insertMarker database collection marker, .ok ()⟩ =>
    some (.markerSeeded database collection marker.version marker.stamp)
  | _ => none

def Exchange.closeOwed {S : Type} : Exchange (Store S) → Option Event
  | ⟨.close _, .error fault⟩ => some (.closeFailed .provision fault)
  | _ => none

theorem map_told {I : Interface} {owed : Exchange I → Option Event}
    {told : Exchange I → Option (Level × String × List (String × String))}
    (each : ∀ exchange, (owed exchange).map Event.told = told exchange)
    (exchanges : List (Exchange I)) :
    (exchanges.filterMap owed).map Event.told = exchanges.filterMap told := by
  rw [List.map_filterMap, funext each]

theorem Exchange.told_of_write (exchange : Exchange Calls) :
    exchange.writeOwed.map Event.told = exchange.writeTold := by
  unfold writeOwed writeTold
  split <;> rfl

theorem Exchange.told_of_close {S : Type} (exchange : Exchange (Store S)) :
    exchange.closeOwed.map Event.told = exchange.closeTold := by
  unfold closeOwed closeTold
  split <;> rfl

def Request.verdict (request : Request) : Except Failure Report → Event
  | .ok report => .runFinished request.target request.account.username report
  | .error failure => .runFailed request.target failure

def Opened {S : Type} (request : Request) (exchanges : List (Exchange (Store S))) : Prop :=
  ∃ session, ⟨.openSession request.scope request.admin, .ok session⟩ ∈ exchanges

/-- A log tells of the writes and closes among the exchanges, and of the result. -/
structure Faithful {S : Type} (request : Request) (exchanges : List (Exchange (Store S)))
    (result : Except Failure Report) (log : List Event) : Prop where
  /-- One event for each write that was answered well, in the order of the writes, and no other. -/
  writes : (log.filter Event.tellsWrite).map Event.told =
    (exchanges.filterMap Exchange.onSession).filterMap Exchange.writeTold
  /-- One warning for a close that failed. -/
  closing : (log.filter Event.warnsOfClose).map Event.told =
    exchanges.filterMap Exchange.closeTold
  unopened : ¬Opened request exchanges →
    log = [.runStarted request.scope request.target request.account.username]
  /-- The last event tells a success with both outcomes. -/
  done : Opened request exchanges → ∀ report, result = .ok report ↔
    ∃ last, log.getLast? = some last ∧
      last.message =
        s!"bootstrap=done target_db={request.target} username={request.account.username}" ∧
      last.fields = [("user", report.user.shown), ("marker", report.marker.shown)]
  /-- Or else it tells the failure in its own words. -/
  failed : Opened request exchanges → ∀ text,
    (∃ failure, result = .error failure ∧ failure.message = text) ↔
      ∃ last, log.getLast? = some last ∧
        last.message = s!"bootstrap=failed target_db={request.target}" ∧
        last.fields = [("error", text)]
  /-- It is the only one to tell how the run ended. -/
  once : Opened request exchanges → log.filter Event.tellsEnd = log.getLast?.toList

/-! ### Each step keeps its account -/

theorem ensureUser_accounts (account : Account) :
    (ensureUser account).Accounts Event.matters Exchange.writeOwed none := by
  refine ⟨rfl, ?_⟩
  intro looked
  cases looked with
  | error fault => rfl
  | ok there =>
    cases there with
    | true => rfl
    | false =>
      refine ⟨rfl, ?_⟩
      intro created
      cases created with
      | error fault =>
        cases already : fault.isAlreadyExists <;> simp only [already, ↓reduceIte] <;> rfl
      | ok value => exact ⟨rfl, rfl⟩

theorem seedMarker_accounts (database collection : String) (marker : Marker) :
    (seedMarker database collection marker).Accounts Event.matters Exchange.writeOwed none := by
  refine ⟨rfl, ?_⟩
  intro inserted
  cases inserted with
  | error fault => cases already : fault.isAlreadyExists <;> simp only [already, ↓reduceIte] <;> rfl
  | ok value => exact ⟨rfl, rfl⟩

theorem ensureMarker_accounts (database collection version : String) (stamp : Int64) :
    (ensureMarker database collection version stamp).Accounts Event.matters Exchange.writeOwed
      none := by
  have seeds := seedMarker_accounts database collection (.fresh version stamp)
  by_cases named : collection = ""
  · subst named
    rfl
  by_cases versioned : version = ""
  · simp [ensureMarker, named, versioned, Program.Accounts]
  rw [ensureMarker_of_named stamp named versioned]
  refine ⟨rfl, ?_⟩
  intro looked
  cases looked with
  | error fault => rfl
  | ok found =>
    cases found with
    | some marker => rfl
    | none =>
      refine ⟨rfl, ?_⟩
      intro ensured
      cases ensured with
      | ok value => exact ⟨rfl, seeds⟩
      | error fault =>
        cases already : fault.isAlreadyExists with
        | true =>
          simp only [already, ↓reduceIte]
          exact seeds
        | false =>
          simp only [already, Bool.false_eq_true, ↓reduceIte]
          rfl

theorem body_accounts (request : Request) :
    request.body.Accounts Event.matters Exchange.writeOwed none := by
  unfold Request.body
  cases request.account.check request.target with
  | error failure => rfl
  | ok accepted =>
    apply (ensureUser_accounts request.account).bind
    intro user
    cases user with
    | error failure => rfl
    | ok outcome =>
      have applied : (applyPlan request.target request.plan request.stamp).Accounts Event.matters
          Exchange.writeOwed none := by
        cases request.plan with
        | skip => rfl
        | seed collection version => exact ensureMarker_accounts _ _ _ _
      apply applied.bind
      intro marker
      cases marker <;> rfl

/-! ### The log of a whole run -/

theorem Exchange.kinds_of_writeOwed {exchange : Exchange Calls} {event : Event}
    (owed : exchange.writeOwed = some event) :
    event.isWrite = true ∧ event.isVerdict = false ∧ event.isWarning = false := by
  unfold writeOwed at owed
  split at owed
  all_goals cases owed
  all_goals exact ⟨rfl, rfl, rfl⟩

section

variable {σ : Type} (request : Request) (handler : Handler Calls σ) (state : σ)

theorem body_writes :
    (request.body.run handler state).log.filter Event.isWrite =
      (request.body.trace handler state).filterMap Exchange.writeOwed := by
  have told := (body_accounts request).filter_log handler state
  calc (request.body.run handler state).log.filter Event.isWrite
    _ = ((request.body.run handler state).log.filter Event.matters).filter Event.isWrite := by
      rw [List.filter_filter]
      congr 1
      funext event
      cases writes : event.isWrite <;> simp [Event.matters, writes]
    _ = ((request.body.trace handler state).filterMap Exchange.writeOwed).filter
        Event.isWrite := by
      rw [told]
      rfl
    _ = (request.body.trace handler state).filterMap Exchange.writeOwed := by
      apply List.filter_eq_self.2
      intro event member
      obtain ⟨exchange, -, owed⟩ := List.mem_filterMap.1 member
      exact (exchange.kinds_of_writeOwed owed).1

theorem body_silent {event : Event} (logged : event ∈ (request.body.run handler state).log) :
    event.isVerdict = false ∧ event.isWarning = false := by
  cases matters : event.matters with
  | false =>
    simp only [Event.matters, Bool.or_eq_false_iff] at matters
    exact ⟨matters.1.2, matters.2⟩
  | true =>
    have listed := List.mem_filter.2 ⟨logged, matters⟩
    rw [(body_accounts request).filter_log handler state] at listed
    obtain ⟨exchange, -, owed⟩ := List.mem_filterMap.1 listed
    exact (exchange.kinds_of_writeOwed owed).2

end

section

open Program

variable {S σ : Type} {handler : Handler (Store S) σ} {request : Request} {state middle : σ}

theorem provisioning_of_opened {session : S}
    (opened : handler (.openSession request.scope request.admin) state = (.ok session, middle)) :
    let held := request.body.run (callsOn handler session) middle
    let closing : Exchange (Store S) := ⟨.close session, (handler (.close session) held.state).1⟩
    let whole := withSession .provision request.scope request.admin request.body
    whole.trace handler state = ⟨.openSession request.scope request.admin, .ok session⟩ ::
        (exchangesOn session (request.body.trace (callsOn handler session) middle) ++ [closing]) ∧
      (whole.run handler state).log = held.log ++ closing.closeOwed.toList := by
  simp only [withSession, trace, run, opened, trace_bind, run_bind, run_on, trace_on]
  cases (handler (.close session) (request.body.run (callsOn handler session) middle).state).1 <;>
    exact ⟨rfl, rfl⟩

theorem provision_of_opened {session : S}
    (opened : handler (.openSession request.scope request.admin) state = (.ok session, middle)) :
    let held := request.body.run (callsOn handler session) middle
    ∃ closed : Except Fault Unit,
      let closing : Exchange (Store S) := ⟨.close session, closed⟩
      request.provision.trace handler state =
        ⟨.openSession request.scope request.admin, .ok session⟩ ::
          (exchangesOn session (request.body.trace (callsOn handler session) middle) ++
            [closing]) ∧
      (request.provision.run handler state).log =
        .runStarted request.scope request.target request.account.username ::
          (held.log ++ closing.closeOwed.toList) ++ [request.verdict held.value] := by
  intro held
  obtain ⟨asked, logged⟩ := provisioning_of_opened opened
  obtain ⟨value, -⟩ := withSession_run_of_opened .provision request.body opened
  refine ⟨_, (request.provision_trace handler state).trans asked, ?_⟩
  simp only [Request.provision, run, run_bind, logged, value]
  cases held.value <;> rfl

theorem provision_log_of_refused {fault : Fault}
    (refused : handler (.openSession request.scope request.admin) state = (.error fault, middle)) :
    (request.provision.run handler state).log =
      [.runStarted request.scope request.target request.account.username] := by
  simp only [Request.provision, run, run_bind, withSession_run_of_refused _ _ refused]
  rfl

end

theorem UserOutcome.shown_injective {outcome other : UserOutcome}
    (same : outcome.shown = other.shown) : outcome = other := by
  cases outcome <;> cases other <;> first | rfl | exact absurd same (by decide)

theorem MarkerOutcome.shown_injective {outcome other : MarkerOutcome}
    (same : outcome.shown = other.shown) : outcome = other := by
  cases outcome <;> cases other <;> first | rfl | exact absurd same (by decide)

section

variable (request : Request) (result : Except Failure Report)

theorem Request.verdict_done_iff (report : Report) :
    result = .ok report ↔
      (request.verdict result).message =
        s!"bootstrap=done target_db={request.target} username={request.account.username}" ∧
      (request.verdict result).fields =
        [("user", report.user.shown), ("marker", report.marker.shown)] := by
  constructor
  · intro succeeded
    subst succeeded
    exact ⟨rfl, rfl⟩
  · intro ⟨_, fields⟩
    cases result with
    | error failure =>
      have lengths : 1 = 2 := congrArg List.length fields
      omega
    | ok other =>
      obtain ⟨user, marker⟩ := report
      obtain ⟨otherUser, otherMarker⟩ := other
      have same : [("user", otherUser.shown), ("marker", otherMarker.shown)] =
          [("user", user.shown), ("marker", marker.shown)] := fields
      obtain ⟨users, markers⟩ : otherUser.shown = user.shown ∧
          otherMarker.shown = marker.shown := by simpa using same
      rw [UserOutcome.shown_injective users, MarkerOutcome.shown_injective markers]

theorem Request.verdict_failed_iff (text : String) :
    (∃ failure, result = .error failure ∧ failure.message = text) ↔
      (request.verdict result).message = s!"bootstrap=failed target_db={request.target}" ∧
      (request.verdict result).fields = [("error", text)] := by
  constructor
  · intro ⟨failure, failed, words⟩
    subst failed words
    exact ⟨rfl, rfl⟩
  · intro ⟨_, fields⟩
    cases result with
    | error failure =>
      refine ⟨failure, rfl, ?_⟩
      have same : [("error", failure.message)] = [("error", text)] := fields
      simpa using same
    | ok report =>
      have lengths : 2 = 1 := congrArg List.length fields
      omega

end

/-! ### The log is faithful -/

section

open Program

variable {S σ τ : Type} {handler : Handler (Store S) σ} {other : Handler (Store S) τ}
variable {request : Request} {state middle : σ} {start : τ}

theorem faithful_of_refused {fault : Fault}
    (refused : handler (.openSession request.scope request.admin) state = (.error fault, middle)) :
    Faithful request (request.provision.trace handler state)
      (request.provision.run handler state).value (request.provision.run handler state).log := by
  have unopened : ¬Opened request (request.provision.trace handler state) := by
    intro ⟨session, member⟩
    rw [Request.provision_trace_of_refused refused] at member
    cases List.mem_singleton.1 member
  rw [provision_log_of_refused refused]
  constructor
  case writes =>
    rw [Request.provision_trace_of_refused refused, Event.tellsWrite_eq]
    rfl
  case closing =>
    rw [Request.provision_trace_of_refused refused, Event.warnsOfClose_eq]
    rfl
  case unopened => exact fun _ => rfl
  case done => exact fun opened => absurd opened unopened
  case failed => exact fun opened => absurd opened unopened
  case once => exact fun opened => absurd opened unopened

theorem kinds_of_close (session : S) (closed : Except Fault Unit) :
    let warned := (⟨.close session, closed⟩ : Exchange (Store S)).closeOwed.toList
    warned.filter Event.isWrite = [] ∧ warned.filter Event.isVerdict = [] ∧
      warned.filter Event.isWarning = warned := by
  cases closed <;> exact ⟨rfl, rfl, rfl⟩

theorem kinds_of_verdict (request : Request) (result : Except Failure Report) :
    (request.verdict result).isWrite = false ∧ (request.verdict result).isVerdict = true ∧
      (request.verdict result).isWarning = false := by
  cases result <;> exact ⟨rfl, rfl, rfl⟩

theorem closeOwed_exchangesOn (session : S) (calls : List (Exchange Calls)) :
    (exchangesOn session calls).filterMap Exchange.closeOwed = [] := by
  induction calls with
  | nil => rfl
  | cons call rest ih => exact ih

theorem faithful_of_opened {session : S}
    (opened : handler (.openSession request.scope request.admin) state = (.ok session, middle)) :
    Faithful request (request.provision.trace handler state)
      (request.provision.run handler state).value (request.provision.run handler state).log := by
  obtain ⟨closed, asked, logged⟩ := provision_of_opened opened
  obtain ⟨value, -⟩ := Request.provision_run_of_opened opened
  obtain ⟨unwritten, unended, warned⟩ := kinds_of_close session closed
  have verdict := kinds_of_verdict request
    (request.body.run (callsOn handler session) middle).value
  have last : (request.provision.run handler state).log.getLast? =
      some (request.verdict (request.provision.run handler state).value) := by
    rw [logged, value, List.getLast?_concat]
  have parts (kind : Event → Bool)
      (started : kind (.runStarted request.scope request.target request.account.username) = false) :
      (request.provision.run handler state).log.filter kind =
        (request.body.run (callsOn handler session) middle).log.filter kind ++
          (⟨.close session, closed⟩ : Exchange (Store S)).closeOwed.toList.filter kind ++
          [request.verdict (request.body.run (callsOn handler session) middle).value].filter
            kind := by
    rw [logged, List.filter_append, List.filter_cons_of_neg (by simp [started]), List.filter_append]
  have quiet (kind : Event → Bool)
      (other : ∀ event ∈ (request.body.run (callsOn handler session) middle).log,
        kind event = false) :
      (request.body.run (callsOn handler session) middle).log.filter kind = [] :=
    List.filter_eq_nil_iff.2 fun event member => by simp [other event member]
  constructor
  case writes =>
    rw [Event.tellsWrite_eq, parts _ rfl, unwritten, List.filter_cons_of_neg (by simp [verdict]),
      asked, filterMap_onSession_of_held, body_writes, ← map_told Exchange.told_of_write]
    simp
  case closing =>
    rw [Event.warnsOfClose_eq, parts _ rfl,
      quiet _ fun event member => (body_silent request _ _ member).2, warned,
      List.filter_cons_of_neg (by simp [verdict]), asked, ← map_told Exchange.told_of_close,
      List.filterMap_cons_none rfl, List.filterMap_append, closeOwed_exchangesOn]
    cases closed <;> rfl
  case unopened =>
    intro missing
    refine absurd ⟨session, ?_⟩ missing
    rw [asked]
    exact List.mem_cons_self
  case done =>
    intro _ report
    rw [last]
    simpa using request.verdict_done_iff _ report
  case failed =>
    intro _ text
    rw [last]
    simpa using request.verdict_failed_iff _ text
  case once =>
    intro _
    rw [Event.tellsEnd_eq, parts _ rfl,
      quiet _ fun event member => (body_silent request _ _ member).1, unended,
      List.filter_cons_of_pos verdict.2.1, last, value]
    rfl

theorem getElem?_held {session : S} {calls : List (Exchange Calls)} {index : Nat} {call : Call}
    {reply : Except Fault call.Answer} (found : calls[index]? = some ⟨call, reply⟩)
    (opening : Exchange (Store S)) (rest : List (Exchange (Store S))) :
    (opening :: (exchangesOn session calls ++ rest))[index + 1]? =
      some ⟨.call session call, reply⟩ := by
  obtain ⟨within, -⟩ := List.getElem?_eq_some_iff.1 found
  rw [List.getElem?_cons_succ, List.getElem?_append_left (by simpa [exchangesOn] using within),
    exchangesOn, List.getElem?_map, found]
  rfl

/-- Whatever the closes answer, apart from their warnings the logs are the same. -/
theorem log_of_agree
    (agree : AgreeButClosing (request.provision.trace handler state)
      (request.provision.trace other start)) :
    (request.provision.run handler state).log.filter (fun event => !event.isWarning) =
      (request.provision.run other start).log.filter (fun event => !event.isWarning) := by
  have replies : (handler (.openSession request.scope request.admin) state).1 =
      (other (.openSession request.scope request.admin) start).1 :=
    agree 0 _ _ _ rfl rfl (by simp)
  cases first : handler (.openSession request.scope request.admin) state with
  | mk reply middle =>
  cases second : other (.openSession request.scope request.admin) start with
  | mk again later =>
  rw [first, second] at replies
  obtain rfl : reply = again := replies
  cases reply with
  | error fault => rw [provision_log_of_refused first, provision_log_of_refused second]
  | ok session =>
    obtain ⟨closed, asked, logged⟩ := provision_of_opened first
    obtain ⟨closedAgain, askedAgain, loggedAgain⟩ := provision_of_opened second
    rw [asked, askedAgain] at agree
    have within : AnsweredAlike (fun _ => Eq)
        (request.body.trace (callsOn handler session) middle)
        (request.body.trace (callsOn other session) later) := by
      intro index call one another found foundAgain
      exact agree (index + 1) (.call session call) one another (getElem?_held found _ _)
        (getElem?_held foundAgain _ _) (by simp)
    obtain ⟨logs, values⟩ := run_of_answered within
    have unwarned (closed : Except Fault Unit) (log : List Event) :
        (log ++ (⟨.close session, closed⟩ : Exchange (Store S)).closeOwed.toList).filter
          (fun event => !event.isWarning) = log.filter fun event => !event.isWarning := by
      cases closed <;> simp [Exchange.closeOwed, Event.isWarning]
    rw [logged, loggedAgain, List.filter_append, List.filter_append, ← List.cons_append,
      ← List.cons_append, unwarned, unwarned, logs, values]

end

/-- The log of a run is a faithful account, over any datastore. It has one event for each user,
collection and marker that was written, in the order of the writes, and none for anything else; once
a session was opened, its last event tells how the run ended, and no other does. A close that fails
adds one warning and changes nothing else. -/
theorem log_tells_writes_and_end {S σ : Type} (handler : Handler (Store S) σ) (state : σ)
    (request : Request) :
    let exchanges := request.provision.trace handler state
    let ran := request.provision.run handler state
    Faithful request exchanges ran.value ran.log ∧
      ∀ {τ : Type} (other : Handler (Store S) τ) (start : τ),
        AgreeButClosing exchanges (request.provision.trace other start) →
          ran.log.filter (fun event => !event.warnsOfClose) =
            (request.provision.run other start).log.filter fun event => !event.warnsOfClose := by
  intro exchanges ran
  simp only [Event.warnsOfClose_eq]
  refine ⟨?_, fun other start agree => log_of_agree agree⟩
  cases opened : handler (.openSession request.scope request.admin) state with
  | mk opening middle =>
  cases opening with
  | error fault => exact faithful_of_refused opened
  | ok session => exact faithful_of_opened opened

/-- A run that created its user and its collection, failed at the marker and could not even close
its session, and the same run with a close that works. -/
theorem half_finished_run_is_told :
    let request := Request.sample
    let gone : Fault := ⟨.unavailable, "gone"⟩
    let sound : Playback := ⟨{ insertMarker := [.error gone] }, []⟩
    let failing : Playback := ⟨{ insertMarker := [.error gone], closing := [.error gone] }, []⟩
    let ran := request.provision.run Playback.handler failing
    AgreeButClosing (request.provision.trace Playback.handler failing)
        (request.provision.trace Playback.handler sound) ∧
      (ran.log.filter Event.tellsWrite).map Event.told =
        [(.info, "user=created target_db=app username=dev", [("roles", "[\"readWrite@app\"]")]),
          (.debug, "collection=created db=app collection=description", [])] ∧
      (ran.log.filter Event.warnsOfClose).map Event.told =
        [(.warn, "Failed to close datastore session",
          [("error", gone.message), ("operation", "bootstrap")])] ∧
      ran.log.filter (fun event => !event.warnsOfClose) =
        (request.provision.run Playback.handler sound).log.filter
          fun event => !event.warnsOfClose := by
  intro request gone sound failing ran
  let marker : Marker := .fresh "1.0" 5
  let asked (closed : Except Fault Unit) : List (Exchange (Store Unit)) :=
    [⟨.openSession "admin" ⟨"root", "secret"⟩, .ok ()⟩,
      ⟨.call () (.userExists "app" "dev"), .ok false⟩,
      ⟨.call () (.createUser request.account), .ok ()⟩,
      ⟨.call () (.findMarker "app" "description"), .ok none⟩,
      ⟨.call () (.ensureCollection "app" "description"), .ok ()⟩,
      ⟨.call () (.insertMarker "app" "description" marker), .error gone⟩, ⟨.close (), closed⟩]
  have failingly : request.provision.trace Playback.handler failing = asked (.error gone) := by cbv
  have soundly : request.provision.trace Playback.handler sound = asked (.ok ()) := by cbv
  have agree : AgreeButClosing (request.provision.trace Playback.handler failing)
      (request.provision.trace Playback.handler sound) := by
    rw [failingly, soundly]
    exact .cons _ (.cons _ (.cons _ (.cons _ (.cons _ (.cons _ (.close _ _ _ .nil))))))
  obtain ⟨faithful, blind⟩ := log_tells_writes_and_end Playback.handler failing request
  refine ⟨agree, ?_, ?_, blind Playback.handler sound agree⟩
  · rw [faithful.writes, failingly]
    cbv
  · rw [faithful.closing, failingly]
    rfl

end Provision
