import Mathlib
import Provision.Proofs.ArgumentGrammar
import Provision.Proofs.LoadedAccount
import Provision.Proofs.PlanOverrides
import Provision.Proofs.Survey
import Provision.Proofs.Wire
/-!
The exit status of the command line.

A line is judged in three steps, each of which is taken only if the one before stands: its
arguments, the environment, and the change of the marker plan that the arguments ask for. What comes
of it is one command with settings of its own, or a refusal that never reaches a server. The status
tells refusals of the line, refusals of the environment and failures from success.
-/

namespace Provision

/-! ### The first thing a command does -/

section

open Program Remote

variable {σ α : Type} (server : ServerSettings) (handler : Handler Wire σ) (state : σ)

theorem opening_connects (scope : String) (credentials : Credentials) :
    ∃ reply rest, (means server (.openSession scope credentials)).trace handler state =
      ⟨.connect server.address server.appName, reply⟩ :: rest := by
  simp only [means, retry]
  rw [Retry.attemptFrom, trace_bind]
  exact ⟨_, _, rfl⟩

theorem onServer_connects {scope : String} {credentials : Credentials}
    {next : Except Fault Client → Program (Store Client) α} :
    ∃ reply rest, (onServer server (.perform (.openSession scope credentials) next)).trace handler
      state = ⟨.connect server.address server.appName, reply⟩ :: rest := by
  obtain ⟨reply, rest, opening⟩ := opening_connects server handler state scope credentials
  simp only [onServer, via, trace_bind, opening]
  exact ⟨reply, _, rfl⟩

theorem execute_connects {settings : Settings} (named : settings.target.isEmpty = false)
    (command : Command) (stamp : Int64) :
    ∃ reply rest, (settings.execute command stamp).trace handler state =
      ⟨.connect settings.server.address settings.server.appName, reply⟩ :: rest := by
  cases command with
  | up => exact onServer_connects settings.server handler state
  | status =>
    have there : settings.target ≠ "" := by simpa using named
    simp only [Settings.execute, Settings.orchestrate, Settings.status, inspect_of_named there]
    exact onServer_connects settings.server handler state

end

namespace CommandLine

/-! ### What a line comes to -/

def Arguments.Replans (arguments : Arguments) : Prop :=
  arguments.marker ≠ none ∨ arguments.markerVersion ≠ none

/-- The mode of the plan that is asked for. A version given alone means seeding. -/
def Arguments.planWord (arguments : Arguments) : String :=
  match arguments.marker with
  | some mode => mode.word
  | none => "seed"

inductive Planned (arguments : Arguments) (loaded : Settings) : MarkerPlan → Prop
  | kept (plain : ¬arguments.Replans) : Planned arguments loaded loaded.plan
  | replaced (replans : arguments.Replans) {settings : Settings}
      (accepted : loaded.overrideMarker arguments.planWord arguments.markerVersion =
        .ok settings) : Planned arguments loaded settings.plan

/-- The one command that a line calls for, with its settings: those of the environment but for the
plan and the login check. -/
inductive CallsFor (line : List String) (env : Environment) : Command → Settings → Prop
  | command {arguments : Arguments} {loaded : Settings} {plan : MarkerPlan}
      (spelled : Spells line arguments) (accepted : Settings.load env = .ok loaded)
      (planned : Planned arguments loaded plan) :
      CallsFor line env (arguments.command.getD .up)
        { loaded with plan, verifyLogin := loaded.verifyLogin && !arguments.noVerify }

inductive RefusesPlan (line : List String) (env : Environment) (fault : SettingsFault) : Prop
  | plan {arguments : Arguments} {loaded : Settings} (spelled : Spells line arguments)
      (accepted : Settings.load env = .ok loaded) (replans : arguments.Replans)
      (rejected : loaded.overrideMarker arguments.planWord arguments.markerVersion =
        .error fault)

inductive RefusesEnvironment (line : List String) (env : Environment) (fault : SettingsFault) : Prop
  | environment {arguments : Arguments} (spelled : Spells line arguments)
      (rejected : Settings.load env = .error fault)

inductive Judged (parse : List String → Parsed) (line : List String) (env : Environment) :
    Decision → Prop
  | help (asked : parse line = .help) : Judged parse line env .help
  | line (plain : parse line ≠ .help) (unspelled : ∀ arguments, ¬Spells line arguments) :
      Judged parse line env .refuseLine
  | environment {fault : SettingsFault} (refused : RefusesEnvironment line env fault) :
      Judged parse line env (.refuseEnvironment fault)
  | plan {fault : SettingsFault} (refused : RefusesPlan line env fault) :
      Judged parse line env (.refuseOverride fault)
  | command {command : Command} {settings : Settings} (calls : CallsFor line env command settings) :
      Judged parse line env (.carryOut settings command)

section

variable {line : List String} {env : Environment} {arguments : Arguments} {loaded : Settings}

theorem overridden_of_plain (plain : ¬arguments.Replans) :
    overridden arguments loaded = .ok loaded := by
  obtain ⟨noMarker, noVersion⟩ : arguments.marker = none ∧ arguments.markerVersion = none := by
    simpa [Arguments.Replans] using plain
  simp [overridden, noMarker, noVersion]

theorem overridden_of_replans (replans : arguments.Replans) :
    overridden arguments loaded =
      loaded.overrideMarker arguments.planWord arguments.markerVersion := by
  have word : (arguments.marker.getD .seed).word = arguments.planWord := by
    unfold Arguments.planWord
    cases arguments.marker <;> rfl
  have asked : ¬(arguments.marker.isNone && arguments.markerVersion.isNone) = true := by
    unfold Arguments.Replans at replans
    cases marker : arguments.marker <;> cases version : arguments.markerVersion <;> simp_all
  rw [overridden, if_neg asked, word]

theorem withoutVerification_eq (arguments : Arguments) (settings : Settings) :
    withoutVerification arguments settings =
      { settings with verifyLogin := settings.verifyLogin && !arguments.noVerify } := by
  unfold withoutVerification
  cases arguments.noVerify <;> simp

section

variable {parse : List String → Parsed} (documented : Documented parse)
include documented

theorem judged (line : List String) (env : Environment) :
    Judged parse line env (weigh (parse line) env) := by
  unfold weigh
  cases parsed : parse line with
  | help => exact .help parsed
  | rejected =>
    apply Judged.line
    · simp [parsed]
    · intro arguments spelled
      rw [(documented.accepted line arguments).2 spelled] at parsed
      cases parsed
  | accepted arguments =>
    have spelled : Spells line arguments := (documented.accepted line arguments).1 parsed
    cases read : Settings.load env with
    | error fault => exact .environment ⟨spelled, read⟩
    | ok loaded =>
      simp only
      by_cases replans : arguments.Replans
      · rw [overridden_of_replans replans]
        cases replaced : loaded.overrideMarker arguments.planWord arguments.markerVersion with
        | error fault => exact .plan ⟨spelled, read, replans, replaced⟩
        | ok settings =>
          obtain ⟨plan, -, rfl⟩ := Settings.overrideMarker_eq_ok_iff.1 replaced
          simp only [withoutVerification_eq]
          exact .command (.command spelled read (.replaced replans replaced))
      · rw [overridden_of_plain replans]
        simp only [withoutVerification_eq]
        exact .command (.command spelled read (.kept replans))

theorem Judged.eq {decision : Decision} (judged : Judged parse line env decision) :
    weigh (parse line) env = decision := by
  have parsed {arguments : Arguments} (spelled : Spells line arguments) :
      parse line = .accepted arguments :=
    (documented.accepted line arguments).2 spelled
  unfold weigh
  cases judged with
  | help asked => rw [asked]
  | line plain unspelled =>
    cases found : parse line with
    | help => exact absurd found plain
    | rejected => rfl
    | accepted arguments =>
      exact absurd ((documented.accepted line arguments).1 found) (unspelled arguments)
  | environment refused =>
    obtain ⟨spelled, rejected⟩ := refused
    rw [parsed spelled, rejected]
  | plan refused =>
    obtain ⟨spelled, accepted, replans, rejected⟩ := refused
    simp only [parsed spelled, accepted, overridden_of_replans replans, rejected]
  | command calls =>
    obtain ⟨spelled, accepted, planned⟩ := calls
    cases planned with
    | kept plain =>
      simp only [parsed spelled, accepted, overridden_of_plain plain, withoutVerification_eq]
    | replaced replans replaced =>
      obtain ⟨plan, -, rfl⟩ := Settings.overrideMarker_eq_ok_iff.1 replaced
      simp only [parsed spelled, accepted, overridden_of_replans replans, replaced,
        withoutVerification_eq]

/-- A line is judged as it should be, and in no other way. -/
theorem weigh_eq_iff {decision : Decision} :
    weigh (parse line) env = decision ↔ Judged parse line env decision :=
  ⟨fun same => same ▸ judged documented line env, Judged.eq documented⟩

theorem asksHelp_iff : parse line = .help ↔ weigh (parse line) env = .help := by
  rw [weigh_eq_iff documented]
  exact ⟨.help, fun | .help asked => asked⟩

theorem refusesLine_iff : (parse line ≠ .help ∧ ∀ arguments, ¬Spells line arguments) ↔
    weigh (parse line) env = .refuseLine := by
  rw [weigh_eq_iff documented]
  constructor
  · intro refused
    exact .line refused.1 refused.2
  · intro judged
    cases judged with
    | line plain unspelled => exact ⟨plain, unspelled⟩

variable {fault : SettingsFault} {command : Command} {settings : Settings}

theorem refusesEnvironment_iff :
    RefusesEnvironment line env fault ↔ weigh (parse line) env = .refuseEnvironment fault := by
  rw [weigh_eq_iff documented]
  exact ⟨.environment, fun | .environment refused => refused⟩

theorem refusesPlan_iff :
    RefusesPlan line env fault ↔ weigh (parse line) env = .refuseOverride fault := by
  rw [weigh_eq_iff documented]
  exact ⟨.plan, fun | .plan refused => refused⟩

theorem callsFor_iff :
    CallsFor line env command settings ↔ weigh (parse line) env = .carryOut settings command := by
  rw [weigh_eq_iff documented]
  exact ⟨.command, fun | .command calls => calls⟩

end

variable {command : Command} {settings : Settings}

theorem CallsFor.named (calls : CallsFor line env command settings) :
    settings.target.isEmpty = false := by
  obtain ⟨-, accepted, -⟩ := calls
  obtain ⟨gives, -⟩ := Environment.load_eq_ok_iff.1 accepted
  exact Environment.required_ne_empty gives.target

end

/-! ### What carrying it out comes to -/

def closingEvents (settings : Settings) : Except Failure Outcome → List Event
  | .ok (.provisioned report) =>
    [.commandFinished settings.target settings.account.username report]
  | _ => []

section

variable {σ : Type} (handler : Handler Remote.Wire σ) (state : σ)
variable (settings : Settings) (command : Command) (stamp : Int64)

theorem run_carryOut :
    let program := run (.carryOut settings command) stamp
    let called := (settings.execute command stamp).run handler state
    program.trace handler state = (settings.execute command stamp).trace handler state ∧
      (program.run handler state).state = called.state ∧
      (program.run handler state).log = called.log ++ closingEvents settings called.value := by
  have quiet (value : Except Failure Outcome) (later : σ) :
      (finish settings value).trace handler later = [] := by
    rcases value with failure | report | report <;> rfl
  refine ⟨Program.trace_bind_of_quiet quiet state, ?_⟩
  simp only [run, Program.run_bind]
  rcases ((settings.execute command stamp).run handler state).value with failure | report | report
  all_goals exact ⟨rfl, rfl⟩

theorem status_carryOut :
    let status := ((run (.carryOut settings command) stamp).run handler state).value.status
    let value := ((settings.execute command stamp).run handler state).value
    (status = 0 ↔ ∃ outcome, value = .ok outcome) ∧
      (status = 1 ↔ ∃ failure, value = .error failure) ∧ status ≠ 2 := by
  simp only [run, Program.run_bind]
  rcases ((settings.execute command stamp).run handler state).value with failure | report | report
  all_goals simp [finish, Program.run]

end

/-- The status of a line is 2 if the line or the plan that it asks for is refused, 1 if the
environment is refused or the command fails, and 0 otherwise. A server is asked for something
exactly if all three stand, and then by one command, with the settings of the environment except for
the plan and the login check that the line asks for. How the line is parsed does not matter, as long
as it is accepted for what it spells. -/
theorem exit_status_tells_outcome (parse : List String → Parsed) (documented : Documented parse)
    (line : List String) (env : Environment) (stamp : Int64)
    {σ : Type} (handler : Handler Remote.Wire σ) (state : σ) :
    let program := run (weigh (parse line) env) stamp
    let asked := program.trace handler state
    let ran := program.run handler state
    (asked ≠ [] ↔ ∃ command settings, CallsFor line env command settings) ∧
    (ran.value.status = 2 ↔
      (parse line ≠ .help ∧ ∀ arguments, ¬Spells line arguments) ∨
      ∃ fault, RefusesPlan line env fault) ∧
    (ran.value.status = 1 ↔ (∃ fault, RefusesEnvironment line env fault) ∨
      ∃ command settings failure, CallsFor line env command settings ∧
        ((settings.execute command stamp).run handler state).value = .error failure) ∧
    (ran.value.status = 0 ↔ parse line = .help ∨
      ∃ command settings outcome, CallsFor line env command settings ∧
        ((settings.execute command stamp).run handler state).value = .ok outcome) ∧
    (parse line = .help → AsksHelp line) ∧
    ((∃ command settings, CallsFor line env command settings ∧
        let called := (settings.execute command stamp).run handler state
        asked = (settings.execute command stamp).trace handler state ∧
          ran.state = called.state ∧ ran.log = called.log ++ closingEvents settings called.value) ∨
      (¬∃ command settings, CallsFor line env command settings) ∧ asked = [] ∧ ran.log = []) := by
  have named : ∀ settings command, weigh (parse line) env = .carryOut settings command →
      settings.target.isEmpty = false := by
    intro settings command carried
    exact ((callsFor_iff documented).2 carried).named
  have asksHelp : parse line = .help → AsksHelp line := documented.help line
  have helped : parse line = .help ↔ weigh (parse line) env = .help := asksHelp_iff documented
  have rejected : (parse line ≠ .help ∧ ∀ arguments, ¬Spells line arguments) ↔
      weigh (parse line) env = .refuseLine := refusesLine_iff documented
  simp only [callsFor_iff documented, rejected, refusesEnvironment_iff documented,
    refusesPlan_iff documented]
  rw [helped] at asksHelp ⊢
  generalize weigh (parse line) env = decision at named asksHelp ⊢
  cases decision with
  | help => simpa [run, Program.run, Program.trace] using asksHelp
  | refuseLine => simp [run, Program.run, Program.trace]
  | refuseEnvironment fault => simp [run, Program.run, Program.trace]
  | refuseOverride fault => simp [run, Program.run, Program.trace]
  | carryOut settings command =>
    obtain ⟨asked, left, logged⟩ := run_carryOut handler state settings command stamp
    obtain ⟨succeeds, fails, accepted⟩ := status_carryOut handler state settings command stamp
    obtain ⟨reply, rest, connects⟩ :=
      execute_connects handler state (named settings command rfl) command stamp
    refine ⟨?_, ?_, ?_, ?_, ?_, ?_⟩
    · rw [asked, connects]
      simp
    · simpa using accepted
    · simpa using fails
    · simpa using succeeds
    · intro asked
      cases asked
    · exact .inl ⟨command, settings, rfl, asked, left, logged⟩

def turningAway : Handler Remote.Wire Unit
  | .connect .., () => (.error (.invalidArgument "no such address"), ())
  | .login .., () => (.error (.io "not connected"), ())
  | .command .., () => (.error (.io "not connected"), ())
  | .disconnect _, () => ((), ())
  | .pause _, () => ((), ())

/-- The error is one that no other attempt can change. -/
theorem opening_turnedAway (server : ServerSettings) (scope : String) (credentials : Credentials) :
    (Remote.means server (.openSession scope credentials)).run turningAway () =
      ⟨.error (Remote.DriverError.invalidArgument "no such address").fault, [], ()⟩ := by
  simp only [Remote.means, retry]
  generalize Retry.limitOf server.attempts - 1 = left
  rw [Retry.attemptFrom, Program.run_bind]
  cases left <;> rfl

theorem up_turnedAway (settings : Settings) (stamp : Int64) :
    ∃ failure, ((settings.execute .up stamp).run turningAway ()).value = .error failure := by
  let answering : Handler (Store Remote.Client) Unit :=
    Program.carriedOut (Remote.means settings.server) turningAway
  let request := settings.request stamp
  have refused : answering (.openSession request.scope request.admin) () =
      (.error (Remote.DriverError.invalidArgument "no such address").fault, ()) := by
    have ran := opening_turnedAway settings.server request.scope request.admin
    exact Prod.ext (congrArg Run.value ran) (congrArg Run.state ran)
  have provisioned : (request.provision.run answering ()).value = .error _ :=
    (Request.provision_run_of_refused refused).1
  have ended := (settings.up_exchanges stamp answering ()).2.2 _ provisioned
  rw [Settings.execute, Program.run, Remote.onServer, (Program.run_via _ _ _ _).1]
  exact ⟨_, ended⟩

/-- Two command words, a plan to seed without a version, an environment without a database, and a
server that cannot be reached. -/
theorem refusals_and_failures_have_their_status :
    let status (line : List String) (env : Environment) : Nat :=
      ((run (weigh (read line) env) 5).run turningAway ()).value.status
    let env := Environment.sample "secret" "word"
    status ["up", "status"] env = 2 ∧ status ["--marker", "seed"] env = 2 ∧
      status ["status"] (fun _ => none) = 1 ∧ status ["--no-verify"] env = 1 := by
  intro status env
  have told (line : List String) (env : Environment) :=
    exit_status_tells_outcome read read_documented line env 5 turningAway ()
  refine ⟨?_, ?_, ?_, ?_⟩
  · have rejected : read ["up", "status"] = .rejected := by cbv
    apply (told ["up", "status"] env).2.1.2
    left
    constructor
    · intro asked
      cases rejected.symm.trans asked
    · intro arguments spelled
      rw [(read_documented.accepted _ arguments).2 spelled] at rejected
      cases rejected
  · apply (told ["--marker", "seed"] env).2.1.2
    right
    have spelled : Spells ["--marker", "seed"] { marker := some .seed } :=
      (read_documented.accepted _ _).1 (by cbv)
    have replans : ({ marker := some .seed } : Arguments).Replans := by simp [Arguments.Replans]
    exact ⟨.versionMissing, spelled, Environment.load_sample, replans, by cbv⟩
  · apply (told ["status"] fun _ => none).2.2.1.2
    left
    have spelled : Spells ["status"] { command := some .status } :=
      (read_documented.accepted _ _).1 (by cbv)
    exact ⟨_, spelled, show Settings.load (fun _ => none) = .error (.missing .adminUsername) by cbv⟩
  · apply (told ["--no-verify"] env).2.2.1.2
    right
    have spelled : Spells ["--no-verify"] { noVerify := true } :=
      (read_documented.accepted _ _).1 (by cbv)
    have plain : ¬({ noVerify := true } : Arguments).Replans := by simp [Arguments.Replans]
    have calls := CallsFor.command spelled Environment.load_sample (.kept plain)
    obtain ⟨failure, failed⟩ := up_turnedAway _ 5
    exact ⟨.up, _, failure, calls, failed⟩

end CommandLine

end Provision
