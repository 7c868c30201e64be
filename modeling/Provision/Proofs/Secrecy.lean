import Mathlib
import Provision.Proofs.Masked
import Provision.Proofs.Up
/-!
No password reaches a result, a failure or the log.

Two runs are compared. Their clusters and their tasks are equal except for passwords, and the logins
that they try fit in both or in neither. Then the programs ask the same of their clusters but for
the passwords that they hand on, each step answers alike and keeps the clusters alike, and so both
runs end with one value, one log and clusters that again differ in passwords only.
-/

namespace Provision

/-- Programs that ask and log the same, up to the passwords that they hand on. -/
inductive Twins {S α : Type} : Program (Store S) α → Program (Store S) α → Prop
  | done (value : α) : Twins (.done value) (.done value)
  | emit (event : Event) {rest other : Program (Store S) α} (later : Twins rest other) :
      Twins (.emit event rest) (.emit event other)
  | openSession (scope : String) {credentials another : Credentials}
      (alike : credentials.masked = another.masked)
      {next other : Except Fault S → Program (Store S) α}
      (later : ∀ reply, Twins (next reply) (other reply)) :
      Twins (.perform (.openSession scope credentials) next)
        (.perform (.openSession scope another) other)
  | call (session : S) (call : Call) {next other : Except Fault call.Answer → Program (Store S) α}
      (later : ∀ reply, Twins (next reply) (other reply)) :
      Twins (.perform (.call session call) next) (.perform (.call session call) other)
  | createUser (session : S) {account another : Account} (alike : account.masked = another.masked)
      {next other : Except Fault Unit → Program (Store S) α}
      (later : ∀ reply, Twins (next reply) (other reply)) :
      Twins (.perform (.call session (.createUser account)) next)
        (.perform (.call session (.createUser another)) other)
  | close (session : S) {next other : Except Fault Unit → Program (Store S) α}
      (later : ∀ reply, Twins (next reply) (other reply)) :
      Twins (.perform (.close session) next) (.perform (.close session) other)

namespace Twins

variable {S α β : Type} {program other : Program (Store S) α}

theorem refl (program : Program (Store S) α) : Twins program program := by
  induction program with
  | done value => exact .done value
  | emit event rest ih => exact .emit event ih
  | perform op next ih =>
    cases op with
    | openSession scope credentials => exact .openSession scope rfl ih
    | call session call => exact .call session call ih
    | close session => exact .close session ih

theorem bind {next later : α → Program (Store S) β} (first : Twins program other)
    (rest : ∀ value, Twins (next value) (later value)) :
    Twins (program.bind next) (other.bind later) := by
  induction first with
  | done value => exact rest value
  | emit event _ ih => exact .emit event ih
  | openSession scope alike _ ih => exact .openSession scope alike ih
  | call session call _ ih => exact .call session call ih
  | createUser session alike _ ih => exact .createUser session alike ih
  | close session _ ih => exact .close session ih

end Twins

/-! ### Tasks that differ in passwords only -/

section

variable {S : Type}

theorem ensureUser_twins (session : S) {account another : Account}
    (alike : account.masked = another.masked) :
    Twins ((ensureUser account).on session) ((ensureUser another).on session) := by
  obtain ⟨password, rfl⟩ := Account.of_masked alike
  refine .call session _ fun found => ?_
  rcases found with fault | found
  · exact .refl _
  · cases found with
    | true => exact .refl _
    | false =>
      refine .createUser session alike fun made => ?_
      rcases made with fault | made
      · exact .refl _
      · exact .refl _

theorem withSession_twins {α : Type} (operation : Operation) (scope : String)
    {credentials another : Credentials} (alike : credentials.masked = another.masked)
    {body other : Program Calls α}
    (bodies : ∀ session : S, Twins (body.on session) (other.on session)) :
    Twins (withSession (S := S) operation scope credentials body)
      (withSession operation scope another other) := by
  refine .openSession scope alike fun opened => ?_
  rcases opened with fault | session
  · exact .refl _
  · exact (bodies session).bind fun value => .refl _

theorem body_twins (session : S) {request other : Request}
    (alike : request.masked = other.masked) :
    Twins (request.body.on session) (other.body.on session) := by
  have account : request.account.masked = other.account.masked := congrArg Request.account alike
  have target : other.target = request.target := (congrArg Request.target alike).symm
  have plan : other.plan = request.plan := (congrArg Request.plan alike).symm
  have stamp : other.stamp = request.stamp := (congrArg Request.stamp alike).symm
  have checked : other.account.check request.target = request.account.check request.target :=
    (congrArg (Account.check request.target) account).symm
  unfold Request.body
  rw [target, plan, stamp, checked]
  cases request.account.check request.target with
  | error failure => exact .refl _
  | ok accepted =>
    simp only [Program.on, Program.via_bind]
    exact (ensureUser_twins session account).bind fun value => .refl _

theorem provision_twins {request other : Request} (alike : request.masked = other.masked) :
    Twins (S := S) request.provision other.provision := by
  have admin : request.admin.masked = other.admin.masked := congrArg Request.admin alike
  have account : request.account.masked = other.account.masked := congrArg Request.account alike
  have scope : other.scope = request.scope := (congrArg Request.scope alike).symm
  have target : other.target = request.target := (congrArg Request.target alike).symm
  have username : other.account.username = request.account.username :=
    (congrArg Account.username account).symm
  unfold Request.provision
  rw [scope, target, username]
  refine .emit _ ((withSession_twins _ _ admin fun session => body_twins session alike).bind ?_)
  rintro (fault | failure | report) <;> exact .refl _

theorem verifyLogin_twins (target : String) {credentials another : Credentials}
    (alike : credentials.masked = another.masked) :
    Twins (S := S) (verifyLogin target credentials) (verifyLogin target another) := by
  obtain ⟨password, rfl⟩ := Credentials.of_masked alike
  exact (withSession_twins _ _ alike fun session => .refl _).bind fun value => .refl _

theorem inspect_twins (scope target collection : String) {admin another : Credentials}
    (alike : admin.masked = another.masked) :
    Twins (S := S) (inspect scope admin target collection)
      (inspect scope another target collection) := by
  unfold inspect
  split
  · exact .refl _
  · exact (withSession_twins _ _ alike fun session => .refl _).bind fun value => .refl _

theorem checkLogin_twins {settings other : Settings} (alike : settings.masked = other.masked) :
    Twins (S := S) settings.checkLogin other.checkLogin := by
  have target : other.target = settings.target := (congrArg Settings.target alike).symm
  have verify : other.verifyLogin = settings.verifyLogin :=
    (congrArg Settings.verifyLogin alike).symm
  have account : settings.account.masked = other.account.masked := congrArg Settings.account alike
  have login : settings.account.credentials.masked = other.account.credentials.masked :=
    congrArg Account.credentials account
  unfold Settings.checkLogin
  rw [target, verify]
  split
  · exact verifyLogin_twins _ login
  · exact .refl _

theorem Settings.request_masked {settings other : Settings} (alike : settings.masked = other.masked)
    (stamp : Int64) : (settings.request stamp).masked = (other.request stamp).masked :=
  congrArg (fun masked : Settings => masked.request stamp) alike

theorem up_twins {settings other : Settings} (alike : settings.masked = other.masked)
    (stamp : Int64) : Twins (S := S) (settings.up stamp) (other.up stamp) := by
  refine (provision_twins (Settings.request_masked alike stamp)).bind fun value => ?_
  rcases value with failure | report
  · exact .refl _
  · exact (checkLogin_twins alike).bind fun value => .refl _

theorem status_twins {settings other : Settings} (alike : settings.masked = other.masked) :
    Twins (S := S) settings.status other.status := by
  have admin : settings.server.admin.masked = other.server.admin.masked :=
    congrArg (fun masked : Settings => masked.server.admin) alike
  have scope : other.server.adminDatabase = settings.server.adminDatabase :=
    (congrArg (fun masked : Settings => masked.server.adminDatabase) alike).symm
  have target : other.target = settings.target := (congrArg Settings.target alike).symm
  have collection : other.markerCollection = settings.markerCollection :=
    (congrArg Settings.markerCollection alike).symm
  unfold Settings.status
  rw [scope, target, collection]
  exact (inspect_twins _ _ _ admin).bind fun value => .refl _

theorem task_twins {α : Type} {task other : Task α} (same : task.SameButPasswords other) :
    Twins (S := S) task.program other.program := by
  cases same with
  | provision alike => exact provision_twins alike
  | verifyLogin target alike => exact verifyLogin_twins target alike
  | inspect scope target collection alike => exact inspect_twins scope target collection alike
  | orchestrate command stamp alike =>
    cases command with
    | up => exact up_twins alike stamp
    | status => exact status_twins alike

end

namespace Cluster

def SameButPasswords (cluster other : Cluster) : Prop :=
  ∃ users, other = { cluster with users } ∧
    ∀ key, (users.find? key).map User.grants = (cluster.users.find? key).map User.grants

def fits (cluster : Cluster) (scope : String) (credentials : Credentials) : Bool :=
  (cluster.users.find? (scope, credentials.username)).any fun user =>
    decide (user.password = credentials.password)

variable {cluster other : Cluster}

theorem SameButPasswords.hasUser (same : cluster.SameButPasswords other)
    (database username : String) :
    other.hasUser database username = cluster.hasUser database username := by
  obtain ⟨users, rfl, alike⟩ := same
  have found := congrArg Option.isSome (alike (database, username))
  simpa [Cluster.hasUser, Table.contains] using found

theorem SameButPasswords.openSession (same : cluster.SameButPasswords other) {scope : String}
    {credentials another : Credentials} (alike : credentials.masked = another.masked)
    (fitting : cluster.fits scope credentials = other.fits scope another) :
    (cluster.openSession scope credentials).1 = (other.openSession scope another).1 ∧
      (cluster.openSession scope credentials).2.SameButPasswords
        (other.openSession scope another).2 := by
  obtain ⟨password, rfl⟩ := Credentials.of_masked alike
  have unmoved := same
  obtain ⟨users, rfl, grants⟩ := same
  have stored := grants (scope, credentials.username)
  simp only [fits] at fitting
  simp only [Cluster.openSession]
  cases here : cluster.users.find? (scope, credentials.username) with
  | none =>
    have there : users.find? (scope, credentials.username) = none := by
      simpa [here] using stored
    rw [there]
    exact ⟨rfl, unmoved⟩
  | some user =>
    obtain ⟨twin, there, held⟩ : ∃ twin, users.find? (scope, credentials.username) = some twin ∧
        twin.grants = user.grants := by
      simpa [here] using stored
    rw [here, there] at fitting
    rw [there]
    by_cases right : user.password = credentials.password
    · have also : twin.password = password := by simpa [right] using fitting
      simp only [right, also, ↓reduceIte]
      exact ⟨congrArg Except.ok held.symm, users, rfl, grants⟩
    · have neither : ¬twin.password = password := by simpa [right] using fitting
      simp only [right, neither, ↓reduceIte]
      exact ⟨trivial, unmoved⟩

inductive SameEnds : Except Refusal Cluster → Except Refusal Cluster → Prop
  | refused (refusal : Refusal) : SameEnds (.error refusal) (.error refusal)
  | done {cluster other : Cluster} (same : cluster.SameButPasswords other) :
      SameEnds (.ok cluster) (.ok other)

theorem SameButPasswords.settle (same : cluster.SameButPasswords other)
    {written another : Except Refusal Cluster} (ends : SameEnds written another) :
    (cluster.settle written).1 = (other.settle another).1 ∧
      (cluster.settle written).2.SameButPasswords (other.settle another).2 := by
  cases ends with
  | refused refusal => exact ⟨rfl, same⟩
  | done next => exact ⟨rfl, next⟩

theorem SameButPasswords.createUser (same : cluster.SameButPasswords other)
    {account another : Account} (alike : account.masked = another.masked) :
    SameEnds (cluster.createUser account) (other.createUser another) := by
  obtain ⟨password, rfl⟩ := Account.of_masked alike
  unfold Cluster.createUser
  cases unknownRole account.grants with
  | some written => exact .refused _
  | none =>
    simp only [same.hasUser]
    split
    · exact .refused _
    · obtain ⟨users, rfl, grants⟩ := same
      refine .done ⟨_, rfl, fun key => ?_⟩
      rw [Table.find?_insert, Table.find?_insert]
      split
      · rfl
      · exact grants key

theorem SameButPasswords.createCollection (same : cluster.SameButPasswords other)
    (database collection : String) :
    SameEnds (cluster.createCollection database collection)
      (other.createCollection database collection) := by
  obtain ⟨users, rfl, grants⟩ := same
  unfold Cluster.createCollection
  by_cases there : cluster.hasCollection database collection = true
  · rw [if_pos there, if_pos (by exact there)]
    exact .refused _
  · rw [if_neg there, if_neg (by exact there)]
    exact .done ⟨users, rfl, grants⟩

theorem SameButPasswords.insertMarker (same : cluster.SameButPasswords other)
    (database collection : String) (marker : Marker) :
    (cluster.insertMarker database collection marker).1 =
        (other.insertMarker database collection marker).1 ∧
      (cluster.insertMarker database collection marker).2.SameButPasswords
        (other.insertMarker database collection marker).2 := by
  rw [insertMarker_eq, insertMarker_eq]
  refine same.settle ?_
  obtain ⟨users, rfl, grants⟩ := same
  by_cases there : cluster.holds (.marker (database, collection)) = true
  · rw [if_pos there, if_pos (by exact there)]
    exact .refused _
  · rw [if_neg there, if_neg (by exact there)]
    exact .done ⟨users, rfl, grants⟩

theorem SameButPasswords.faults (same : cluster.SameButPasswords other) :
    other.faults = cluster.faults := by
  obtain ⟨users, rfl, -⟩ := same
  rfl

theorem SameButPasswords.answer_createUser (same : cluster.SameButPasswords other)
    (session : Session) {account another : Account} (alike : account.masked = another.masked) :
    (cluster.answer session (.createUser account)).1 =
        (other.answer session (.createUser another)).1 ∧
      (cluster.answer session (.createUser account)).2.SameButPasswords
        (other.answer session (.createUser another)).2 := by
  have database : another.database = account.database := (congrArg Account.database alike).symm
  simp only [answer, Call.faultPoint, same.faults, Session.refusal, Call.needs, database]
  cases cluster.faults .createUser with
  | some fault => exact ⟨rfl, same⟩
  | none =>
    by_cases held : session.holds .manageUsers account.database = true
    · simp only [if_pos held]
      exact same.settle (same.createUser alike)
    · simp only [if_neg held]
      exact ⟨trivial, same⟩

theorem SameButPasswords.answer (same : cluster.SameButPasswords other) (session : Session)
    (call : Call) :
    (cluster.answer session call).1 = (other.answer session call).1 ∧
      (cluster.answer session call).2.SameButPasswords (other.answer session call).2 := by
  simp only [Cluster.answer, same.faults]
  cases cluster.faults call.faultPoint with
  | some fault => exact ⟨rfl, same⟩
  | none =>
    cases session.refusal call with
    | some refusal => exact ⟨rfl, same⟩
    | none =>
      cases call with
      | userExists database username =>
        exact ⟨congrArg Except.ok (same.hasUser database username).symm, same⟩
      | createUser account => exact same.settle (same.createUser rfl)
      | ensureCollection database collection =>
        exact same.settle (same.createCollection database collection)
      | insertMarker database collection marker =>
        exact same.insertMarker database collection marker
      | findMarker | serverVersion | listCollections =>
        obtain ⟨users, rfl, grants⟩ := same
        exact ⟨rfl, users, rfl, grants⟩

theorem SameButPasswords.close (same : cluster.SameButPasswords other) :
    cluster.close.1 = other.close.1 ∧ cluster.close.2.SameButPasswords other.close.2 := by
  obtain ⟨users, rfl, alike⟩ := same
  simp only [Cluster.close]
  cases cluster.faults .close with
  | some fault => exact ⟨rfl, users, rfl, alike⟩
  | none => exact ⟨rfl, users, rfl, alike⟩

/-- For every login that a run tries, whether it fits. -/
def loginFits {α : Type} : Program (Store Session) α → Cluster → List Bool
  | .done _, _ => []
  | .emit _ rest, cluster => loginFits rest cluster
  | .perform op next, cluster =>
    let answered := handler op cluster
    let later := loginFits (next answered.1) answered.2
    match op with
    | .openSession scope credentials => cluster.fits scope credentials :: later
    | _ => later

/-- As far as both lists go, the logins fit in both or in neither. -/
def FitAlike (first second : List Bool) : Prop :=
  ∀ pair ∈ first.zip second, pair.1 = pair.2

/-- What one run may not tell from another: its value, what it logged, and its cluster but for
passwords. -/
structure SameRun {α : Type} (ran other : Run Cluster α) : Prop where
  value : ran.value = other.value
  log : ran.log = other.log
  state : ran.state.SameButPasswords other.state

theorem SameRun.emit {α : Type} {ran other : Run Cluster α} (same : SameRun ran other)
    (event : Event) :
    SameRun { ran with log := event :: ran.log } { other with log := event :: other.log } :=
  { same with log := congrArg (event :: ·) same.log }

theorem FitAlike.tail {first second : Bool} {rest others : List Bool}
    (agree : FitAlike (first :: rest) (second :: others)) : FitAlike rest others :=
  fun pair member => agree pair (List.mem_cons_of_mem _ member)

/-- Twins that start alike run alike, as long as the same logins fit. -/
theorem run_twins {α : Type} {program twin : Program (Store Session) α}
    (twins : Twins program twin) (same : cluster.SameButPasswords other)
    (agree : FitAlike (loginFits program cluster) (loginFits twin other)) :
    SameRun (program.run handler cluster) (twin.run handler other) := by
  induction twins generalizing cluster other with
  | done value => exact ⟨rfl, rfl, same⟩
  | emit event later ih => exact (ih same agree).emit event
  | @openSession scope credentials another alike next after later ih =>
    have fitting : cluster.fits scope credentials = other.fits scope another :=
      agree (_, _) List.mem_cons_self
    obtain ⟨replies, states⟩ := same.openSession alike fitting
    have rest := agree.tail
    simp only [Program.run, handler] at rest ⊢
    rw [← replies] at rest ⊢
    exact ih _ states rest
  | call session call later ih =>
    obtain ⟨replies, states⟩ := same.answer session call
    simp only [Program.run, loginFits, handler] at agree ⊢
    rw [← replies] at agree ⊢
    exact ih _ states agree
  | createUser session alike later ih =>
    obtain ⟨replies, states⟩ := same.answer_createUser session alike
    simp only [Program.run, loginFits, handler] at agree ⊢
    rw [← replies] at agree ⊢
    exact ih _ states agree
  | close session later ih =>
    obtain ⟨replies, states⟩ := same.close
    simp only [Program.run, loginFits, handler] at agree ⊢
    rw [← replies] at agree ⊢
    exact ih _ states agree

/-- Passwords never flow. Environments that differ in them only give the same fault, or settings
that differ in them only and look the same. Tasks and clusters that differ in them only give the
same value, be it a report or a failure, the same log, and clusters that differ in them only. -/
theorem passwords_stay_secret :
    (∀ env other : Environment, env.SameButPasswords other →
      (∃ fault, Settings.load env = .error fault ∧ Settings.load other = .error fault) ∨
        ∃ settings another, Settings.load env = .ok settings ∧
          Settings.load other = .ok another ∧ settings.masked = another.masked ∧
          settings.shown = another.shown) ∧
    ∀ (α : Type) (task other : Task α) (cluster twin : Cluster),
      task.SameButPasswords other → cluster.SameButPasswords twin →
      FitAlike (loginFits task.program cluster) (loginFits other.program twin) →
      let ran := task.program.run handler cluster
      let again := other.program.run handler twin
      ran.value = again.value ∧ ran.log = again.log ∧ ran.state.SameButPasswords again.state := by
  refine ⟨fun env other same => same.loaded, ?_⟩
  intro α task other cluster twin tasks clusters agree
  obtain ⟨value, log, state⟩ := run_twins (task_twins tasks) clusters agree
  exact ⟨value, log, state⟩

end Cluster

def Settings.sampleTwin : Settings :=
  { Settings.sample with
    server := { Settings.sample.server with admin := ⟨"root", "hidden"⟩ }
    account := { Settings.sample.account with password := "phrase" } }

def Cluster.sampleTwin : Cluster :=
  .withRoot "admin" ⟨"root", "hidden"⟩

open Cluster in
theorem changed_passwords_change_nothing :
    (∃ settings other, Settings.load (Environment.sample "secret" "word") = .ok settings ∧
      Settings.load (Environment.sample "hidden" "phrase") = .ok other ∧
      settings.shown = other.shown) ∧
    ((Settings.sampleTwin.up 5).run handler sampleTwin).value =
      .ok (.provisioned ⟨.created, .skipped⟩) ∧
    ((Settings.sample.up 5).run handler sample).log =
      ((Settings.sampleTwin.up 5).run handler sampleTwin).log := by
  obtain ⟨loading, running⟩ := passwords_stay_secret
  constructor
  · have same : (Environment.sample "secret" "word").SameButPasswords
        (Environment.sample "hidden" "phrase") := by
      refine ⟨fun name notAdmin notAccount => ?_, rfl, rfl⟩
      simp [Environment.sample, Environment.set, notAdmin, notAccount]
    rcases loading _ _ same with ⟨fault, failed, -⟩ | ⟨settings, other, here, there, -, shown⟩
    · have loaded : (Settings.load (Environment.sample "secret" "word")).isOk = true := by cbv
      rw [failed] at loaded
      cases loaded
    · exact ⟨settings, other, here, there, shown⟩
  · have tasks : (Task.orchestrate Settings.sample .up 5).SameButPasswords
        (.orchestrate Settings.sampleTwin .up 5) := .orchestrate .up 5 rfl
    have clusters : sample.SameButPasswords sampleTwin := by
      refine ⟨_, rfl, fun key => ?_⟩
      simp only [sample, withRoot, Table.find?_insert]
      split <;> rfl
    have first : loginFits (Settings.sample.up 5) sample = [true, true] := by cbv
    have second : loginFits (Settings.sampleTwin.up 5) sampleTwin = [true, true] := by cbv
    have agree : FitAlike (loginFits (Settings.sample.up 5) sample)
        (loginFits (Settings.sampleTwin.up 5) sampleTwin) := by
      rw [first, second]
      simp [FitAlike]
    obtain ⟨value, log, -⟩ := running _ _ _ _ _ tasks clusters agree
    have succeeded : ((Settings.sample.up 5).run handler sample).value =
        .ok (.provisioned ⟨.created, .skipped⟩) := by cbv
    exact ⟨value.symm.trans succeeded, log⟩

end Provision
