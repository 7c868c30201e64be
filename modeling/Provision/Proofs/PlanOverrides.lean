import Mathlib
import Provision.Proofs.Checklist
import Provision.Proofs.LoadedAccount
import Provision.Proofs.ModeSwitches
import Provision.Proofs.Up
/-!
A marker plan is whole, however often it is replaced.

Every replacement that is accepted resolves the plan anew, and what is resolved skips or seeds a
version that is not blank into the collection of the settings. So a run with loaded settings never
fails at the checks that stand before a marker's look-up: a failure of its marker step always tells
a fault of the datastore.
-/

namespace Provision

namespace MarkerPlan

/-- The plan skips, or seeds a version that is not blank into a collection. -/
inductive Whole (collection : String) : MarkerPlan → Prop
  | skip : Whole collection .skip
  | seed {version : String} (solid : ∃ c ∈ version.toList, ¬Text.isBlank c) :
      Whole collection (.seed collection version)

theorem Whole.version_ne_empty {collection other version : String}
    (whole : (MarkerPlan.seed other version).Whole collection) :
    other = collection ∧ version ≠ "" := by
  cases whole with
  | seed solid =>
    obtain ⟨c, member, -⟩ := solid
    refine ⟨rfl, ?_⟩
    rintro rfl
    cases member

theorem whole_of_resolve {mode collection : String} {version : Option String} {plan : MarkerPlan}
    (resolved : resolve mode version collection = .ok plan) : plan.Whole collection := by
  rcases resolve_eq_ok_iff.1 resolved with ⟨-, rfl⟩ | ⟨-, text, -, solid, rfl⟩
  · exact .skip
  · exact .seed (Environment.isBlankText_eq_false_iff.1 solid)

theorem resolve_accepted_iff {mode : String} {version : Option String} (collection : String) :
    (∃ plan, resolve mode version collection = .ok plan) ↔
      Text.word mode = "skip" ∨ Text.word mode = "seed" ∧
        ∃ text, version = some text ∧ ∃ c ∈ text.toList, ¬Text.isBlank c := by
  simp only [resolve_eq_ok_iff, ← Environment.isBlankText_eq_false_iff]
  constructor
  · rintro ⟨plan, ⟨skips, -⟩ | ⟨seeds, text, given, solid, -⟩⟩
    · exact .inl skips
    · exact .inr ⟨seeds, text, given, solid⟩
  · rintro (skips | ⟨seeds, text, given, solid⟩)
    · exact ⟨.skip, .inl ⟨skips, rfl⟩⟩
    · exact ⟨.seed collection text, .inr ⟨seeds, text, given, solid, rfl⟩⟩

end MarkerPlan

namespace Settings

variable {settings next : Settings} {mode : String} {version : Option String}

theorem overrideMarker_eq_ok_iff :
    settings.overrideMarker mode version = .ok next ↔
      ∃ plan, MarkerPlan.resolve mode (version.or settings.plan.version)
        settings.markerCollection = .ok plan ∧ { settings with plan } = next :=
  Except.map_eq_ok_iff

theorem overrideMarker_accepted_iff :
    (∃ next, settings.overrideMarker mode version = .ok next) ↔
      Text.word mode = "skip" ∨ Text.word mode = "seed" ∧
        ∃ text, version.or settings.plan.version = some text ∧
          ∃ c ∈ text.toList, ¬Text.isBlank c := by
  rw [← MarkerPlan.resolve_accepted_iff settings.markerCollection]
  simp only [overrideMarker_eq_ok_iff]
  constructor
  · rintro ⟨next, plan, resolved, -⟩
    exact ⟨plan, resolved⟩
  · rintro ⟨plan, resolved⟩
    exact ⟨_, plan, resolved, rfl⟩

theorem overrideAll_append (settings : Settings) (first last : List (String × Option String)) :
    settings.overrideAll (first ++ last) = (settings.overrideAll first).overrideAll last := by
  induction first generalizing settings with
  | nil => rfl
  | cons override rest ih =>
    obtain ⟨mode, version⟩ := override
    simp only [List.cons_append, overrideAll]
    cases settings.overrideMarker mode version with
    | error fault => exact ih settings
    | ok replaced => exact ih replaced

/-- A plan that is whole stays so, and nothing but the plan changes. -/
theorem overrideAll_whole (whole : settings.plan.Whole settings.markerCollection)
    (overrides : List (String × Option String)) :
    let later := settings.overrideAll overrides
    later.plan.Whole settings.markerCollection ∧ later = { settings with plan := later.plan } := by
  induction overrides generalizing settings with
  | nil => exact ⟨whole, rfl⟩
  | cons override rest ih =>
    obtain ⟨mode, version⟩ := override
    simp only [overrideAll]
    cases applied : settings.overrideMarker mode version with
    | error fault => exact ih whole
    | ok replaced =>
      obtain ⟨plan, resolved, rfl⟩ := overrideMarker_eq_ok_iff.1 applied
      exact @ih { settings with plan } (MarkerPlan.whole_of_resolve resolved)

end Settings

namespace Environment

variable {env : Environment} {settings : Settings}

theorem valueOr_ne_empty (env : Environment) (v : Variable) {default : String}
    (named : default ≠ "") : env.valueOr v default ≠ "" := by
  unfold valueOr
  cases set : env.value v with
  | none => exact named
  | some text => simpa [value, Option.filter_eq_some_iff] using (Option.filter_eq_some_iff.1 set).2

theorem whole_of_load (loaded : Settings.load env = .ok settings) :
    settings.markerCollection ≠ "" ∧ settings.plan.Whole settings.markerCollection := by
  obtain ⟨gives, planned⟩ := load_eq_ok_iff.1 loaded
  rw [gives.markerCollection] at planned ⊢
  exact ⟨valueOr_ne_empty env _ (by decide), MarkerPlan.whole_of_resolve planned⟩

end Environment

/-! ### What a run fails at -/

theorem Request.failureAt_message {request : Request} {fault : Fault} {call : Call}
    {database collection message : String}
    (fails : request.failureAt fault call = .marker database collection message) :
    fault.message = message := by
  cases call <;> cases fails <;> rfl

section

variable {S σ : Type} (handler : Handler (Store S) σ) (state : σ)
variable {database collection message : String}

/-- Where a plan names its collection and its version, a marker failure tells a fault that the
datastore answered a call with. -/
theorem marker_failure_tells_fault {request : Request}
    (whole : ∀ collection version, request.plan = .seed collection version →
      collection ≠ "" ∧ version ≠ "")
    (failed : (request.provision.run handler state).value =
      .error (.marker database collection message)) :
    ∃ exchange ∈ (request.provision.trace handler state).filterMap Exchange.onSession,
      ∃ fault, exchange.strikes = some fault ∧ fault.message = message := by
  obtain ⟨opening, -, -, stages⟩ := provision_follows_protocol handler state request
  obtain ⟨-, other, version, planned, unnamed | unversioned | ⟨exchange, member, -, strikes⟩⟩ :=
    stages.marker.1 ⟨_, _, _, failed⟩
  · exact absurd unnamed (whole other version planned).1
  · exact absurd unversioned (whole other version planned).2
  · obtain ⟨fault, struck⟩ := Option.ne_none_iff_exists'.1 strikes
    have told := (stages.struck exchange member fault struck).symm.trans failed
    exact ⟨exchange, member, fault, struck, Request.failureAt_message (Except.error.inj told)⟩

theorem Settings.checkLogin_failure {settings : Settings} {failure : Failure}
    (failed : (settings.checkLogin.run handler state).value = .error failure) :
    ∃ username database message, failure = .verification username database message := by
  unfold checkLogin at failed
  cases asked : settings.verifyLogin with
  | false =>
    rw [asked] at failed
    cases failed
  | true =>
    rw [asked] at failed
    simp only [↓reduceIte, Provision.verifyLogin, Program.run_bind] at failed
    cases entered : ((withSession .verifyLogin settings.target settings.account.credentials
        (.done ())).run handler state).value with
    | error fault =>
      rw [entered] at failed
      cases failed
      exact ⟨_, _, _, rfl⟩
    | ok passed =>
      rw [entered] at failed
      cases failed

theorem Settings.up_marker_failure {settings : Settings} {stamp : Int64}
    (failed : ((settings.up stamp).run handler state).value =
      .error (.marker database collection message)) :
    ((settings.request stamp).provision.run handler state).value =
      .error (.marker database collection message) := by
  rw [up_value] at failed
  cases ran : ((settings.request stamp).provision.run handler state).value with
  | error failure =>
    rw [ran] at failed
    cases failed
    rfl
  | ok report =>
    rw [ran] at failed
    cases checked : (settings.checkLogin.run handler
        ((settings.request stamp).provision.run handler state).state).value with
    | error failure =>
      obtain ⟨username, database, message, rfl⟩ := checkLogin_failure handler _ checked
      simp only [checked] at failed
      cases failed
    | ok passed =>
      simp only [checked] at failed
      cases failed

end

/-- Over loaded settings and any replacements of their plan, accepted or refused: the plan stays
whole and nothing else changes. A refused replacement leaves it alone; one is accepted if it says to
skip, or to seed with a version at hand that is not blank. So a run with such settings never fails
for an empty collection or an empty version, unless the datastore itself says so. -/
theorem overridden_plans_stay_whole {env : Environment} {settings : Settings}
    (loaded : Settings.load env = .ok settings) (overrides : List (String × Option String)) :
    let later := settings.overrideAll overrides
    settings.markerCollection ≠ "" ∧ later.plan.Whole settings.markerCollection ∧
      later = { settings with plan := later.plan } ∧
      (∀ mode version, settings.overrideAll (overrides ++ [(mode, version)]) =
        match later.overrideMarker mode version with
        | .error _ => later
        | .ok replaced => replaced) ∧
      (∀ mode version, (∃ replaced, later.overrideMarker mode version = .ok replaced) ↔
        Text.word mode = "skip" ∨ Text.word mode = "seed" ∧
          ∃ text, version.or later.plan.version = some text ∧
            ∃ c ∈ text.toList, ¬Text.isBlank c) ∧
      ∀ {S σ : Type} (handler : Handler (Store S) σ) (state : σ) (stamp : Int64),
        let exchanges := (later.orchestrate .up stamp).trace handler state
        let ran := (later.orchestrate .up stamp).run handler state
        ∀ text ∈ ["collection name must not be empty", "marker version must not be empty"],
          (∀ exchange ∈ exchanges.filterMap Exchange.onSession, ∀ fault,
            exchange.strikes = some fault → fault.message ≠ text) →
              ∀ database collection, ran.value ≠ .error (.marker database collection text) := by
  intro later
  obtain ⟨named, planned⟩ := Environment.whole_of_load loaded
  obtain ⟨whole, unmoved⟩ := Settings.overrideAll_whole planned overrides
  refine ⟨named, whole, unmoved, ?next, fun mode version => Settings.overrideMarker_accepted_iff,
    ?runs⟩
  case next =>
    intro mode version
    rw [Settings.overrideAll_append]
    rfl
  case runs =>
    intro S σ handler state stamp exchanges ran text _ silent database collection failed
    have seeds : ∀ collection version, (later.request stamp).plan = .seed collection version →
        collection ≠ "" ∧ version ≠ "" := by
      intro other version same
      have seeded : (MarkerPlan.seed other version).Whole settings.markerCollection := by
        rw [← same]
        exact whole
      obtain ⟨rfl, versioned⟩ := seeded.version_ne_empty
      exact ⟨named, versioned⟩
    obtain ⟨exchange, member, fault, struck, told⟩ := marker_failure_tells_fault handler state seeds
      (Settings.up_marker_failure handler state failed)
    obtain ⟨-, same, -⟩ := later.up_exchanges stamp handler state
    rw [← same] at member
    exact silent exchange member fault struck told

open Cluster in
/-- Two refused replacements behind one that was accepted, and then a look-up that is refused: the
run tells that refusal and nothing about its own plan. -/
theorem refused_overrides_leave_plan :
    let settings : Settings :=
      { Settings.ofSample "secret" "word" with plan := .seed "description" "1.0" }
    let later := settings.overrideAll [(" SEED ", some "2.0"), ("seed", some " "), ("purge", none)]
    let failing := Cluster.sample.inject .findMarker ⟨.unavailable, "down"⟩
    let ran := (later.orchestrate .up 5).run handler failing
    Settings.load Environment.seedingSample = .ok settings ∧
      later = { settings with plan := .seed "description" "2.0" } ∧
      (∃ replaced, later.overrideMarker "Seed" none = .ok replaced) ∧
      (¬∃ replaced, later.overrideMarker "seed" (some "") = .ok replaced) ∧
      ran.value = .error (.marker "app" "description" "datastore unavailable: down") ∧
      ran.value ≠ .error (.marker "app" "description" "marker version must not be empty") := by
  intro settings later failing ran
  obtain ⟨-, -, -, -, accepted, sound⟩ := overridden_plans_stay_whole
    Environment.load_seedingSample
    [(" SEED ", some "2.0"), ("seed", some " "), ("purge", none)]
  have reached : later = { settings with plan := .seed "description" "2.0" } := by
    unfold later settings
    cbv
  have told : ran.value = .error (.marker "app" "description" "datastore unavailable: down") := by
    unfold ran failing
    rw [reached]
    unfold settings
    cbv
  have seeds : Text.word "Seed" = "seed" := by cbv
  have other : Text.word "seed" ≠ "skip" := by cbv
  have struck : (((later.orchestrate .up 5).trace handler failing).filterMap
      Exchange.onSession).filterMap Exchange.strikes = [⟨.unavailable, "down"⟩] := by
    rw [reached]
    unfold failing settings
    cbv
  refine ⟨Environment.load_seedingSample, reached, ?_, ?_, told, ?_⟩
  · refine (accepted "Seed" none).2 (.inr ⟨seeds, "2.0", ?_, '2', by decide, by decide⟩)
    exact congrArg (fun settings : Settings => none.or settings.plan.version) reached
  · intro replaced
    rcases (accepted "seed" (some "")).1 replaced with skips | ⟨-, text, given, solid⟩
    · exact other skips
    · cases given
      simp at solid
  · refine sound handler failing 5 _ (.tail _ (.head _)) ?_ "app" "description"
    intro exchange member fault strikes
    have told : fault ∈ [⟨.unavailable, "down"⟩] :=
      struck ▸ List.mem_filterMap.2 ⟨exchange, member, strikes⟩
    obtain rfl := List.mem_singleton.1 told
    decide

end Provision
