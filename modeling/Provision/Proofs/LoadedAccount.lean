import Mathlib
import Provision.Orchestration
import Provision.Proofs.Alone
import Provision.Proofs.CallProtocol
import Provision.Proofs.GrantList
import Provision.Proofs.Loading
/-!
Loaded settings as the input of a run.

Loading rejects whatever the check of the account would reject, with one exception: a target that
holds nothing but blanks is read as it is, and so are the grants that fall back on it.
-/

namespace Provision

theorem Environment.required_ne_empty {env : Environment} {v : Variable} {text : String}
    (read : env.required v = .ok text) : text.isEmpty = false := by
  unfold required at read
  cases set : env.value v with
  | none => simp [set] at read
  | some found =>
    rw [set] at read
    obtain rfl := Except.ok.inj read
    unfold value at set
    simpa using (Option.filter_eq_some_iff.1 set).2

/-- Some entry of the role list falls back on a target of blanks. -/
def Environment.FallsOnBlank (env : Environment) (target : String) : Prop :=
  Text.isBlankText target = true ∧
    ∃ entry ∈ Grant.entries (env.valueOr .roles "dbOwner"), '@' ∉ entry

theorem Account.check_of_given {account : Account} {target : String}
    (named : target.isEmpty = false) (home : account.database = target)
    (user : account.username.isEmpty = false) (granted : account.grants ≠ []) :
    account.check target = match account.grants.find? Grant.isMalformed with
      | none => .ok ()
      | some grant =>
        .error ((Rejection.malformedGrant grant).failure target account.username) := by
  unfold check rejection
  simp only [named, home, user, granted, List.isEmpty_iff, Bool.false_eq_true, ne_eq,
    not_true_eq_false, ↓reduceIte]
  cases account.grants.find? Grant.isMalformed <;> rfl

section

variable {env : Environment} {settings : Settings}

theorem Environment.Gives.parsed (gives : env.Gives settings) :
    Grant.parse settings.target (env.valueOr .roles "dbOwner") = .ok settings.account.grants := by
  have read := gives.grants
  unfold readGrants at read
  cases parsed : Grant.parse settings.target (env.valueOr .roles "dbOwner") with
  | error entry =>
    rw [parsed] at read
    cases read
  | ok grants =>
    rw [parsed] at read
    rw [Except.ok.inj read]

/-- A loaded account has a malformed grant only if it falls back on blanks. -/
theorem Environment.Gives.malformed (gives : env.Gives settings) {grant : Grant}
    (member : grant ∈ settings.account.grants) (malformed : grant.isMalformed = true) :
    env.FallsOnBlank settings.target ∧ grant.database = settings.target := by
  obtain ⟨entry, listed, spells⟩ := (Grant.mem_of_parse gives.parsed).1 member
  obtain ⟨piece, -, rfl⟩ := List.mem_map.1 listed
  obtain ⟨bare, blank⟩ := (Grant.isMalformed_of_ofChars spells).1 malformed
  exact ⟨⟨blank, _, listed, bare⟩, Grant.database_of_bare bare spells⟩

theorem Environment.Gives.exists_malformed (gives : env.Gives settings)
    (falls : env.FallsOnBlank settings.target) :
    ∃ grant ∈ settings.account.grants, grant.isMalformed = true := by
  obtain ⟨blank, entry, listed, bare⟩ := falls
  obtain ⟨grant, member, spells⟩ := Grant.spells_of_parse gives.parsed listed
  obtain ⟨piece, -, rfl⟩ := List.mem_map.1 listed
  exact ⟨grant, member, (Grant.isMalformed_of_ofChars spells).2 ⟨bare, blank⟩⟩

theorem Environment.Gives.check (gives : env.Gives settings) :
    ¬env.FallsOnBlank settings.target ∧ settings.account.check settings.target = .ok () ∨
      env.FallsOnBlank settings.target ∧ ∃ role, settings.account.check settings.target =
        .error ((Rejection.malformedGrant ⟨role, settings.target⟩).failure settings.target
          settings.account.username) := by
  have checked := Account.check_of_given (required_ne_empty gives.target) gives.home
    (required_ne_empty gives.username) (Grant.ne_nil_of_parse gives.parsed)
  cases first : settings.account.grants.find? Grant.isMalformed with
  | none =>
    rw [first] at checked
    refine .inl ⟨fun falls => ?_, checked⟩
    obtain ⟨grant, member, malformed⟩ := gives.exists_malformed falls
    exact List.find?_eq_none.1 first grant member malformed
  | some grant =>
    rw [first] at checked
    obtain ⟨falls, database⟩ :=
      gives.malformed (List.mem_of_find?_eq_some first) (List.find?_some first)
    exact .inr ⟨falls, grant.role, database ▸ checked⟩

end

theorem Settings.checkLogin_asks {S : Type} (settings : Settings) :
    (settings.checkLogin (S := S)).Asks
      fun op : StoreOp S => ∀ session call, op ≠ .call session call := by
  unfold checkLogin
  cases settings.verifyLogin with
  | false => trivial
  | true =>
    constructor
    · exact fun session call => nofun
    intro opened
    rcases opened with fault | session
    · trivial
    constructor
    · exact fun session call => nofun
    intro closed
    rcases closed with fault | closed <;> trivial

section

variable {S σ : Type} (settings : Settings) (stamp : Int64) (handler : Handler (Store S) σ)
variable (state : σ)

theorem Settings.calls_of_checkLogin :
    (settings.checkLogin.trace handler state).filterMap Exchange.onSession = [] := by
  apply List.filterMap_eq_nil_iff.2
  intro exchange member
  have other := settings.checkLogin_asks.of_mem_trace member
  cases exchange with
  | mk op reply =>
    cases op with
    | openSession | close => rfl
    | call session call => exact absurd rfl (other session call)

/-- The up command opens what its provisioning run opens and makes the same calls, and a run that
fails ends it. -/
theorem Settings.up_exchanges :
    let exchanges := (settings.up stamp).trace handler state
    let provisioning := (settings.request stamp).provision.trace handler state
    let ran := (settings.request stamp).provision.run handler state
    provisioning <+: exchanges ∧
      exchanges.filterMap Exchange.onSession = provisioning.filterMap Exchange.onSession ∧
      ∀ failure, ran.value = .error failure →
        ((settings.up stamp).run handler state).value = .error failure := by
  intro exchanges provisioning ran
  simp only [exchanges, up, Program.trace_bind, Program.run_bind, List.filterMap_append]
  refine ⟨List.prefix_append _ _, ?_, ?_⟩
  · apply List.append_right_eq_self.2
    cases ran.value with
    | error failure => rfl
    | ok report =>
      simp only [Program.trace_bind, List.filterMap_append]
      rw [settings.calls_of_checkLogin handler]
      cases (settings.checkLogin.run handler ran.state).value <;> rfl
  · intro failure failed
    rw [failed]
    rfl

end

theorem RunDialogue.result_of_rejected {S : Type} {request : Request} {opening : Except Fault S}
    {calls : List (Exchange Calls)} {result : Except Failure Report} {session : S}
    {failure : Failure} (dialogue : RunDialogue request opening calls result)
    (opened : opening = .ok session)
    (rejected : request.account.check request.target = .error failure) :
    result = .error failure := by
  cases dialogue with
  | unopened fault => cases opened
  | rejected _ other =>
    rw [rejected] at other
    rw [Except.error.inj other]
  | userless _ accepted | planned _ accepted =>
    rw [rejected] at accepted
    cases accepted

/-- Settings that load are input that the check of a run accepts, unless a grant falls back on a
target of blanks. Then the administrator's session is opened for nothing: no call is made on it, and
the run fails with that grant. -/
theorem loaded_settings_are_accepted {env : Environment} {settings : Settings}
    (loaded : Settings.load env = .ok settings) :
    (settings.account.check settings.target = .ok () ↔ ¬env.FallsOnBlank settings.target) ∧
    ∀ {S σ : Type} (handler : Handler (Store S) σ) (state : σ) (stamp : Int64),
      let exchanges := (settings.orchestrate .up stamp).trace handler state
      let ran := (settings.orchestrate .up stamp).run handler state
      ∃ opening, exchanges.head? = some
          ⟨.openSession settings.server.adminDatabase settings.server.admin, opening⟩ ∧
        ∀ session, opening = .ok session →
          (exchanges.filterMap Exchange.onSession ≠ [] ↔ ¬env.FallsOnBlank settings.target) ∧
          (env.FallsOnBlank settings.target → ∃ role, ran.value =
            .error ((Rejection.malformedGrant ⟨role, settings.target⟩).failure settings.target
              settings.account.username)) := by
  obtain ⟨gives, -⟩ := Environment.load_eq_ok_iff.1 loaded
  have checked : settings.account.check settings.target = .ok () ↔
      ¬env.FallsOnBlank settings.target := by
    rcases gives.check with ⟨named, accepted⟩ | ⟨falls, role, rejected⟩
    · exact iff_of_true accepted named
    · exact iff_of_false (by simp [rejected]) (not_not_intro falls)
  refine ⟨checked, fun handler state stamp => ?_⟩
  intro exchanges ran
  obtain ⟨start, calls, fails⟩ := settings.up_exchanges stamp handler state
  obtain ⟨opening, opens, dialogue⟩ :=
    provision_dialogue handler state (settings.request stamp)
  refine ⟨opening, ?_, fun session opened => ⟨?_, fun falls => ?_⟩⟩
  · obtain ⟨rest, whole⟩ := start
    rw [show exchanges = _ from whole.symm, List.head?_append, opens]
    rfl
  · rw [show exchanges.filterMap Exchange.onSession = _ from calls, dialogue.inStages.begun]
    exact (and_iff_right ⟨session, opened⟩).trans checked
  · obtain ⟨named, -⟩ | ⟨-, role, rejected⟩ := gives.check
    · exact absurd falls named
    · exact ⟨role, fails _ (dialogue.result_of_rejected opened rejected)⟩

def Environment.blankSample : Environment :=
  (sample "secret" "word").set .database (some " ")

def Settings.ofBlankSample : Settings :=
  { ofSample "secret" "word" with
    target := " "
    account := ⟨"dev", "word", " ", [⟨"dbOwner", " "⟩]⟩ }

theorem Environment.load_sample :
    Settings.load (sample "secret" "word") = .ok (.ofSample "secret" "word") :=
  load_eq_ok_iff.2 ⟨sample_gives, by cbv⟩

theorem Environment.load_blankSample : Settings.load blankSample = .ok .ofBlankSample := by
  apply load_eq_ok_iff.2
  constructor
  · constructor <;> cbv
  · cbv

theorem sample_settings_are_accepted :
    (Settings.ofSample "secret" "word").account.check "app" = .ok () ∧
      Settings.ofBlankSample.account.check " " ≠ .ok () := by
  have solid : ¬(Environment.sample "secret" "word").FallsOnBlank "app" := by
    rintro ⟨blank, -⟩
    have solid : Text.isBlankText "app" = false := by cbv
    rw [solid] at blank
    cases blank
  have falls : Environment.blankSample.FallsOnBlank " " := by
    have entries : Grant.entries (Environment.blankSample.valueOr .roles "dbOwner") =
        ["dbOwner".toList] := by cbv
    refine ⟨by cbv, "dbOwner".toList, ?_, by decide⟩
    rw [entries]
    exact .head _
  constructor
  · exact (loaded_settings_are_accepted Environment.load_sample).1.2 solid
  · intro accepted
    exact (loaded_settings_are_accepted Environment.load_blankSample).1.1 accepted falls

/-- With a blank for its database the sample environment loads, and on a new cluster the up command
opens the administrator's session before the account is rejected. -/
theorem blank_target_is_rejected_late :
    let exchanges := (Settings.ofBlankSample.orchestrate .up 5).trace Cluster.handler Cluster.sample
    let ran := (Settings.ofBlankSample.orchestrate .up 5).run Cluster.handler Cluster.sample
    Settings.load Environment.blankSample = .ok .ofBlankSample ∧
      Settings.ofBlankSample.account.check Settings.ofBlankSample.target ≠ .ok () ∧
      exchanges.head? = some
        ⟨.openSession "admin" ⟨"root", "secret"⟩, .ok [⟨"root", "admin"⟩]⟩ ∧
      ran.value = .error
        (.grant "dev" " " "malformed role grant: role='dbOwner' db=' '") := by
  intro exchanges ran
  have rejected : Settings.ofBlankSample.account.check Settings.ofBlankSample.target =
      .error (.grant "dev" " " "malformed role grant: role='dbOwner' db=' '") := by cbv
  refine ⟨Environment.load_blankSample, ?_, by cbv, by cbv⟩
  rw [rejected]
  intro same
  cases same

end Provision
