import Mathlib
import Provision.Proofs.Bracket
import Provision.Proofs.Closing
import Provision.Proofs.Up
import Provision.Scripted
/-!
Sessions are closed as often as they are opened, on every path and over every datastore.

The exchanges of a task are brackets, one behind the other: an opening, calls on the session that it
gave, and the close of that session. An opening that is refused is the end.
-/

namespace Provision

/-- What is exchanged where no session is used but between its opening and its close. -/
inductive Bracketed {S : Type} : List (Exchange (Store S)) → Prop
  | idle : Bracketed []
  | refused (scope : String) (credentials : Credentials) (fault : Fault) :
      Bracketed [⟨.openSession scope credentials, .error fault⟩]
  | held (scope : String) (credentials : Credentials) (session : S)
      (calls : List (Exchange Calls)) (closed : Except Fault Unit)
      {rest : List (Exchange (Store S))} (later : Bracketed rest) :
      Bracketed (⟨.openSession scope credentials, .ok session⟩ ::
        (Program.exchangesOn session calls ++ ⟨.close session, closed⟩ :: rest))

namespace Exchange

variable {S : Type}

def opens : Exchange (Store S) → Bool
  | ⟨.openSession .., .ok _⟩ => true
  | _ => false

def closes : Exchange (Store S) → Bool
  | ⟨.close _, _⟩ => true
  | _ => false

def login : Exchange (Store S) → Option (String × Credentials)
  | ⟨.openSession scope credentials, _⟩ => some (scope, credentials)
  | _ => none

end Exchange

section

variable {S : Type} {exchanges rest : List (Exchange (Store S))}

def stillOpen (exchanges : List (Exchange (Store S))) : Int :=
  exchanges.countP Exchange.opens - exchanges.countP Exchange.closes

theorem stillOpen_append (first last : List (Exchange (Store S))) :
    stillOpen (first ++ last) = stillOpen first + stillOpen last := by
  simp only [stillOpen, List.countP_append]
  omega

@[simp] theorem stillOpen_open (scope : String) (credentials : Credentials) (session : S) :
    stillOpen (⟨.openSession scope credentials, .ok session⟩ :: rest) = stillOpen rest + 1 := by
  simp only [stillOpen, List.countP_cons, Exchange.opens, Exchange.closes, ↓reduceIte,
    Bool.false_eq_true]
  omega

@[simp] theorem stillOpen_refused (scope : String) (credentials : Credentials) (fault : Fault) :
    stillOpen (⟨.openSession scope credentials, .error fault⟩ :: rest) = stillOpen rest := by
  simp [stillOpen, Exchange.opens, Exchange.closes]

@[simp] theorem stillOpen_close (session : S) (closed : Except Fault Unit) :
    stillOpen (⟨.close session, closed⟩ :: rest) = stillOpen rest - 1 := by
  simp only [stillOpen, List.countP_cons, Exchange.opens, Exchange.closes, ↓reduceIte,
    Bool.false_eq_true]
  omega

@[simp] theorem stillOpen_exchangesOn (session : S) (calls : List (Exchange Calls)) :
    stillOpen (Program.exchangesOn session calls) = 0 := by
  induction calls with
  | nil => rfl
  | cons call others ih =>
    simpa [Program.exchangesOn, stillOpen, List.countP_cons, Exchange.opens, Exchange.closes]
      using ih

namespace Bracketed

theorem stillOpen_eq (bracketed : Bracketed exchanges) : stillOpen exchanges = 0 := by
  induction bracketed with
  | idle => rfl
  | refused scope credentials fault => exact stillOpen_refused scope credentials fault
  | held scope credentials session calls closed later ih =>
    rw [stillOpen_open, stillOpen_append, stillOpen_exchangesOn, stillOpen_close, ih]
    rfl

/-- A beginning of a bracket ends before it, among its calls, or behind it. -/
theorem prefix_cases {scope : String} {credentials : Credentials} {session : S}
    {calls : List (Exchange Calls)} {closed : Except Fault Unit}
    {part : List (Exchange (Store S))}
    (start : part <+: ⟨.openSession scope credentials, .ok session⟩ ::
      (Program.exchangesOn session calls ++ ⟨.close session, closed⟩ :: rest)) :
    part = [] ∨
    (∃ some, part = ⟨.openSession scope credentials, .ok session⟩ ::
      Program.exchangesOn session some) ∨
    ∃ later, later <+: rest ∧ part = ⟨.openSession scope credentials, .ok session⟩ ::
      (Program.exchangesOn session calls ++ ⟨.close session, closed⟩ :: later) := by
  rcases List.prefix_cons_iff.1 start with rfl | ⟨tail, rfl, within⟩
  · exact .inl rfl
  right
  have among : tail <+: Program.exchangesOn session calls →
      ∃ some, tail = Program.exchangesOn session some := by
    intro inside
    obtain ⟨some, -, same⟩ := List.prefix_map_iff.1 inside
    exact ⟨some, same⟩
  rcases List.prefix_or_prefix_of_prefix within (List.prefix_append _ _) with inside | ⟨more, rfl⟩
  · obtain ⟨some, rfl⟩ := among inside
    exact .inl ⟨some, rfl⟩
  · rcases List.prefix_cons_iff.1 ((List.prefix_append_right_inj _).1 within) with
      rfl | ⟨later, rfl, behind⟩
    · exact .inl ⟨calls, by rw [List.append_nil]⟩
    · exact .inr ⟨later, behind, rfl⟩

theorem stillOpen_of_prefix (bracketed : Bracketed exchanges) {part : List (Exchange (Store S))}
    (start : part <+: exchanges) : stillOpen part = 0 ∨ stillOpen part = 1 := by
  induction bracketed generalizing part with
  | idle =>
    rw [List.prefix_nil.1 start]
    exact .inl rfl
  | refused scope credentials fault =>
    rcases List.prefix_cons_iff.1 start with rfl | ⟨tail, rfl, within⟩
    · exact .inl rfl
    · rw [List.prefix_nil.1 within]
      exact .inl (stillOpen_refused scope credentials fault)
  | held scope credentials session calls closed later ih =>
    rcases prefix_cases start with rfl | ⟨some, rfl⟩ | ⟨behind, within, rfl⟩
    · exact .inl rfl
    · exact .inr (by simp)
    · simpa [stillOpen_append] using ih within

end Bracketed

end

section

open Program

variable {S σ : Type} (handler : Handler (Store S) σ) (state : σ)

theorem bracketed_withSession {α β : Type} (operation : Operation) (scope : String)
    (credentials : Credentials) (body : Program Calls α)
    {next : Except Fault α → Program (Store S) β}
    (refused : ∀ fault state, (next (.error fault)).trace handler state = [])
    (later : ∀ value state, Bracketed ((next (.ok value)).trace handler state)) :
    Bracketed (((withSession operation scope credentials body).bind next).trace handler state) := by
  rw [trace_bind]
  cases answered : handler (.openSession scope credentials) state with
  | mk reply middle =>
  cases reply with
  | error fault =>
    rw [withSession_trace_of_refused _ _ answered, withSession_run_of_refused _ _ answered, refused]
    exact .refused scope credentials fault
  | ok session =>
    obtain ⟨closed, asked⟩ := withSession_trace_of_opened operation body answered
    obtain ⟨value, -⟩ := withSession_run_of_opened operation body answered
    rw [asked, value]
    simpa using Bracketed.held scope credentials session _ closed (later _ _)

theorem bracketed_verifyLogin (target : String) (credentials : Credentials) :
    Bracketed ((verifyLogin target credentials).trace handler state) :=
  bracketed_withSession handler state _ _ _ _ (fun _ _ => rfl) fun _ _ => .idle

theorem bracketed_inspect (scope : String) (admin : Credentials) (target collection : String) :
    Bracketed ((inspect scope admin target collection).trace handler state) := by
  unfold inspect
  split
  · exact .idle
  · exact bracketed_withSession handler state _ _ _ _ (fun _ _ => rfl) fun _ _ => .idle

theorem bracketed_checkLogin (settings : Settings) :
    Bracketed (settings.checkLogin.trace handler state) := by
  unfold Settings.checkLogin
  split
  · exact bracketed_verifyLogin handler state _ _
  · exact .idle

theorem bracketed_up (settings : Settings) (stamp : Int64) :
    Bracketed ((settings.up stamp).trace handler state) := by
  unfold Settings.up Request.provision
  rw [bind_emit, bind_assoc]
  refine bracketed_withSession handler state _ _ _ _ (fun _ _ => rfl) fun result state => ?_
  rcases result with failure | report
  · exact .idle
  · simp only [bind_emit, bind_done, trace]
    rw [trace_bind_of_quiet]
    · exact bracketed_checkLogin handler state settings
    · rintro (failure | passed) state <;> rfl

/-- Every task holds its sessions in brackets. -/
theorem bracketed_task {α : Type} (task : Task α) :
    Bracketed (task.program.trace handler state) := by
  cases task with
  | provision request =>
    rw [Task.program, Request.provision_trace, ← done_bind_self (withSession _ _ _ _)]
    exact bracketed_withSession handler state _ _ _ _ (fun _ _ => rfl) fun _ _ => .idle
  | verifyLogin target credentials => exact bracketed_verifyLogin handler state target credentials
  | inspect scope admin target collection =>
    exact bracketed_inspect handler state scope admin target collection
  | orchestrate settings command stamp =>
    cases command with
    | up => exact bracketed_up handler state settings stamp
    | status =>
      refine (trace_bind_of_quiet (fun result state => ?_) state).symm ▸
        bracketed_inspect handler state _ _ _ _
      rcases result with failure | report <;> rfl

theorem logins_exchangesOn (session : S) (calls : List (Exchange Calls)) :
    (exchangesOn session calls).filterMap Exchange.login = [] := by
  induction calls with
  | nil => rfl
  | cons call rest ih => exact ih

theorem logins_withSession {α : Type} (operation : Operation) (scope : String)
    (credentials : Credentials) (body : Program Calls α) :
    ((withSession operation scope credentials body).trace handler state).filterMap
      Exchange.login = [(scope, credentials)] := by
  cases answered : handler (.openSession scope credentials) state with
  | mk reply middle =>
  cases reply with
  | error fault =>
    rw [withSession_trace_of_refused _ _ answered]
    rfl
  | ok session =>
    obtain ⟨closed, asked⟩ := withSession_trace_of_opened operation body answered
    rw [asked, List.filterMap_cons, List.filterMap_append, logins_exchangesOn]
    rfl

theorem logins_checkLogin (settings : Settings) :
    (settings.checkLogin.trace handler state).filterMap Exchange.login =
      if settings.verifyLogin then [(settings.target, settings.account.credentials)] else [] := by
  unfold Settings.checkLogin
  split
  · refine (congrArg _ (trace_bind_of_quiet (fun result state => ?_) state)).trans
      (logins_withSession handler state _ _ _ _)
    rcases result with fault | passed <;> rfl
  · rfl

theorem logins_up (settings : Settings) (stamp : Int64) :
    ((settings.up stamp).trace handler state).filterMap Exchange.login =
      (settings.server.adminDatabase, settings.server.admin) ::
        if settings.verifyLogin ∧
            ((settings.request stamp).provision.run handler state).value.isOk then
          [(settings.target, settings.account.credentials)] else [] := by
  unfold Settings.up
  rw [trace_bind, List.filterMap_append, Request.provision_trace, logins_withSession]
  cases ((settings.request stamp).provision.run handler state).value with
  | error failure => simp [trace, Except.isOk, Except.toBool, Settings.request]
  | ok report =>
    dsimp only
    rw [trace_bind_of_quiet, logins_checkLogin]
    · simp [Except.isOk, Except.toBool, Settings.request]
    · rintro (failure | passed) state <;> rfl

end

/-- Over any datastore every task closes each session that it opened, and only those, before it
ends; it never holds two. The command logs in as the account when the administrator's session is
closed, and only if the run before succeeded and the check is asked for. What a close answers has no
part in any result. -/
theorem sessions_are_bracketed {S σ : Type} (handler : Handler (Store S) σ) (state : σ) :
    (∀ {α : Type} (task : Task α),
      let exchanges := task.program.trace handler state
      Bracketed exchanges ∧ stillOpen exchanges = 0 ∧
        ∀ part, part <+: exchanges → stillOpen part = 0 ∨ stillOpen part = 1) ∧
    (∀ (settings : Settings) (stamp : Int64),
      ((settings.orchestrate .up stamp).trace handler state).filterMap Exchange.login =
        (settings.server.adminDatabase, settings.server.admin) ::
          if settings.verifyLogin ∧
              ((settings.request stamp).provision.run handler state).value.isOk then
            [(settings.target, settings.account.credentials)] else []) ∧
    ∀ {τ : Type} (other : Handler (Store S) τ) (start : τ) {α : Type} (task : Task α),
      AgreeButClosing (task.program.trace handler state) (task.program.trace other start) →
        (task.program.run handler state).value = (task.program.run other start).value := by
  refine ⟨fun task => ?_, fun settings stamp => logins_up handler state settings stamp, ?_⟩
  · have bracketed := bracketed_task handler state task
    exact ⟨bracketed, bracketed.stillOpen_eq, fun part start => bracketed.stillOpen_of_prefix start⟩
  · intro τ other start α task agree
    exact (ignoresClosing_task task).value_eq handler other state start agree

/-- A command with a login check, over a datastore that closes sessions and over one whose closes
fail. -/
theorem failing_closes_change_no_result :
    let task : Task Outcome := .orchestrate Settings.sample .up 5
    let sound : Playback := ⟨{}, []⟩
    let failing : Playback := ⟨{ closing := [.error ⟨.unavailable, "gone"⟩] }, []⟩
    let closes := ((task.program.trace Playback.handler failing).filter Exchange.closes)
    closes.length = 2 ∧
      AgreeButClosing (task.program.trace Playback.handler sound)
        (task.program.trace Playback.handler failing) ∧
      (task.program.run Playback.handler sound).value =
        (task.program.run Playback.handler failing).value := by
  intro task sound failing closes
  let asked (closed : Except Fault Unit) : List (Exchange (Store Unit)) :=
    [⟨.openSession "admin" ⟨"root", "secret"⟩, .ok ()⟩,
      ⟨.call () (.userExists "app" "dev"), .ok false⟩,
      ⟨.call () (.createUser Settings.sample.account), .ok ()⟩, ⟨.close (), closed⟩,
      ⟨.openSession "app" ⟨"dev", "word"⟩, .ok ()⟩, ⟨.close (), closed⟩]
  have soundly : task.program.trace Playback.handler sound = asked (.ok ()) := by cbv
  have failingly : task.program.trace Playback.handler failing =
      asked (.error ⟨.unavailable, "gone"⟩) := by cbv
  have agree : AgreeButClosing (task.program.trace Playback.handler sound)
      (task.program.trace Playback.handler failing) := by
    rw [soundly, failingly]
    exact .cons _ (.cons _ (.cons _ (.close _ _ _ (.cons _ (.close _ _ _ .nil)))))
  have twice : closes.length = 2 := by
    simp only [closes, failingly]
    rfl
  obtain ⟨-, -, blind⟩ := sessions_are_bracketed Playback.handler sound
  exact ⟨twice, agree, blind Playback.handler failing task agree⟩

end Provision
