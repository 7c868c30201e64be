import Mathlib
import Provision.CommandLine.Run
import Provision.Proofs.Loading
/-!
The marker's options on the command line against its variables in the environment.

The options replace a plan that the environment has made already. So they lead to the settings that
their values would lead to as variables, but only where the variables make a plan of their own: an
environment without one is refused before the options are looked at.
-/

namespace Provision

def MarkerMode.plan (mode : MarkerMode) (collection version : String) : MarkerPlan :=
  match mode with
  | .skip => .skip
  | .seed => .seed collection version

theorem MarkerMode.ofWord_lowered_word (mode : MarkerMode) :
    ofWord (Text.lowered (Text.trim mode.word)) = some mode := by
  cases mode <;> cbv

theorem MarkerPlan.resolve_eq_ok_iff {mode collection : String} {version : Option String}
    {plan : MarkerPlan} :
    resolve mode version collection = .ok plan ↔
      Text.lowered (Text.trim mode) = "skip" ∧ plan = .skip ∨
      Text.lowered (Text.trim mode) = "seed" ∧ ∃ text, version = some text ∧
        Text.isBlankText text = false ∧ plan = .seed collection text := by
  unfold resolve
  by_cases skips : Text.lowered (Text.trim mode) = "skip"
  · simp [skips, MarkerMode.ofWord, Eq.comm (a := plan)]
  by_cases seeds : Text.lowered (Text.trim mode) = "seed"
  · cases version with
    | none => simp [seeds, MarkerMode.ofWord]
    | some text =>
      cases blank : Text.isBlankText text <;>
        simp [seeds, MarkerMode.ofWord, Option.filter, blank, Eq.comm (a := plan)]
  · simp [skips, seeds, MarkerMode.ofWord]

theorem MarkerPlan.resolve_word (mode : MarkerMode) {version : String}
    (versioned : Text.isBlankText version = false) (collection : String) :
    resolve mode.word (some version) collection = .ok (mode.plan collection version) := by
  apply resolve_eq_ok_iff.2
  cases mode with
  | skip => exact .inl ⟨by cbv, rfl⟩
  | seed => exact .inr ⟨by cbv, version, rfl, versioned, rfl⟩

namespace Environment

def markerWord (env : Environment) : String :=
  Text.lowered (Text.trim (env.valueOr .marker "skip"))

/-- The environment's own plan is to skip, or to seed a version that it has. -/
def PlanStands (env : Environment) : Prop :=
  env.markerWord = "skip" ∨ env.markerWord = "seed" ∧
    ∃ version, env.value .markerVersion = some version ∧ Text.isBlankText version = false

def planFault (env : Environment) : SettingsFault :=
  if env.markerWord = "seed" then .versionMissing else .unknownMode env.markerWord

theorem plan_of_stands {env : Environment} (stands : env.PlanStands) (collection : String) :
    ∃ plan, env.plan collection = .ok plan := by
  rcases stands with skips | ⟨seeds, version, given, versioned⟩
  · exact ⟨.skip, MarkerPlan.resolve_eq_ok_iff.2 (.inl ⟨skips, rfl⟩)⟩
  · exact ⟨.seed collection version,
      MarkerPlan.resolve_eq_ok_iff.2 (.inr ⟨seeds, version, given, versioned, rfl⟩)⟩

theorem plan_of_not_stands {env : Environment} (falls : ¬env.PlanStands) (collection : String) :
    env.plan collection = .error env.planFault := by
  unfold PlanStands at falls
  unfold plan MarkerPlan.resolve planFault
  rw [← markerWord]
  by_cases seeds : env.markerWord = "seed"
  · cases given : env.value .markerVersion with
    | none => simp [seeds, MarkerMode.ofWord]
    | some version =>
      have blank : Text.isBlankText version = true := by simpa [seeds, given] using falls
      simp [seeds, Option.filter, blank, MarkerMode.ofWord]
  · have unknown : env.markerWord ≠ "skip" := fun skips => falls (.inl skips)
    simp [seeds, unknown, MarkerMode.ofWord]

theorem plan_withMarker (env : Environment) (mode : MarkerMode) {version : String}
    (versioned : Text.isBlankText version = false) (collection : String) :
    (env.withMarker (some mode.word) (some version)).plan collection =
      .ok (mode.plan collection version) := by
  have moded : (env.withMarker (some mode.word) (some version)).valueOr .marker "skip" =
      mode.word := by
    unfold valueOr withMarker
    rw [value_set_of_ne (by decide), value_set_self]
    cases mode <;> rfl
  have given : (env.withMarker (some mode.word) (some version)).value .markerVersion =
      some version := by
    unfold withMarker
    rw [value_set_self]
    simp [Option.filter, Text.isEmpty_of_isBlankText versioned]
  unfold plan
  rw [moded, given]
  exact MarkerPlan.resolve_word mode versioned collection

theorem Gives.load_unplanned {env : Environment} {base : Settings} (gives : env.Gives base) :
    Settings.load (env.withMarker none none) = .ok { base with plan := .skip } := by
  have unset : (env.withMarker none none).valueOr .marker "skip" = MarkerMode.skip.word := by
    unfold valueOr withMarker
    rw [value_set_of_ne (by decide), value_set_self]
    rfl
  have skips : (env.withMarker none none).plan base.markerCollection = .ok .skip := by
    simp only [plan, MarkerPlan.resolve, unset, MarkerMode.ofWord_lowered_word]
  have given : (env.withMarker none none).Gives base :=
    gives.congr fun v notMode notVersion => value_withMarker none none notMode notVersion
  rw [given.load, skips]
  rfl

end Environment

namespace CommandLine

variable {env : Environment} {base : Settings} {line bare : List String}
variable {command : Option Command} {mode : MarkerMode} {version : String} {noVerify : Bool}

theorem judge_variables (mode : MarkerMode) (gives : env.Gives base)
    (versioned : Text.isBlankText version = false)
    (plain : read bare = .accepted ⟨command, none, none, noVerify⟩) :
    judge bare (env.withMarker (some mode.word) (some version)) = .carryOut
      { base with
        plan := mode.plan base.markerCollection version
        verifyLogin := base.verifyLogin && !noVerify } (command.getD .up) := by
  have other : (env.withMarker (some mode.word) (some version)).Gives base :=
    gives.congr fun v notMode notVersion => Environment.value_withMarker _ _ notMode notVersion
  have loaded := other.load
  rw [Environment.plan_withMarker env mode versioned] at loaded
  simp only [judge, weigh, plain, loaded, Except.map, overridden]
  cases noVerify <;> simp [withoutVerification]

theorem judge_options (gives : env.Gives base) (stands : env.PlanStands)
    (versioned : Text.isBlankText version = false)
    (flagged : read line = .accepted ⟨command, some mode, some version, noVerify⟩) :
    judge line env = .carryOut
      { base with
        plan := mode.plan base.markerCollection version
        verifyLogin := base.verifyLogin && !noVerify } (command.getD .up) := by
  obtain ⟨plan, made⟩ := Environment.plan_of_stands stands base.markerCollection
  have loaded := gives.load
  rw [made] at loaded
  simp only [judge, weigh, flagged, loaded, Except.map, overridden, Settings.overrideMarker,
    Option.getD_some, Option.some_or, MarkerPlan.resolve_word mode versioned]
  cases noVerify <;> simp [withoutVerification]

/-- No line is carried out in an environment whose plan does not stand. -/
theorem judge_of_not_stands {arguments : Arguments} (gives : env.Gives base)
    (falls : ¬env.PlanStands) (accepted : read line = .accepted arguments) :
    judge line env = .refuseEnvironment env.planFault := by
  have loaded := gives.load
  rw [Environment.plan_of_not_stands falls] at loaded
  simp only [judge, weigh, accepted, loaded, Except.map]

/-- The options of a line lead to the settings that the same values lead to as variables, if the
environment has a plan of its own. If it has none, it is refused whatever the options are. -/
theorem options_replace_standing_plans
    (accepted : Settings.load (env.withMarker none none) = .ok base)
    (versioned : Text.isBlankText version = false)
    (flagged : read line = .accepted ⟨command, some mode, some version, noVerify⟩)
    (plain : read bare = .accepted ⟨command, none, none, noVerify⟩) :
    let wanted := judge bare (env.withMarker (some mode.word) (some version))
    wanted = .carryOut
        { base with
          plan := mode.plan base.markerCollection version
          verifyLogin := base.verifyLogin && !noVerify } (command.getD .up) ∧
      (env.PlanStands → judge line env = wanted) ∧
      (¬env.PlanStands → judge line env = .refuseEnvironment env.planFault) := by
  intro wanted
  obtain ⟨unplanned, -⟩ := Environment.load_eq_ok_iff.1 accepted
  have gives : env.Gives base := unplanned.congr fun v notMode notVersion =>
    (Environment.value_withMarker none none notMode notVersion).symm
  have judged : wanted = _ := judge_variables mode gives versioned plain
  refine ⟨judged, fun stands => ?_, fun falls => ?_⟩
  · rw [judged]
    exact judge_options gives stands versioned flagged
  · exact judge_of_not_stands gives falls flagged

theorem read_markerOptions (mode : MarkerMode) (version : String) :
    read ["--marker", mode.word, "--marker-version=" ++ version] =
      .accepted ⟨none, some mode, some version, false⟩ := by
  have attached : shape ("--marker-version=" ++ version) =
      .long "marker-version" (some version) := by
    simp [shape, String.toList_append, splitValue]
  have marker : shape "--marker" = .long "marker" none := by cbv
  have word : shape mode.word = .word mode.word := by cases mode <;> cbv
  unfold read
  simp [readFrom, marker, word, attached, takeWord, takeOption, settle, Flag.ofName, Flag.name,
    MarkerMode.ofWord_word]

end CommandLine

def Environment.unversionedSample : Environment :=
  (sample "secret" "word").set .marker (some "seed")

theorem Environment.unversionedSample_gives :
    unversionedSample.Gives (.ofSample "secret" "word") :=
  sample_gives.congr fun _ notMode _ => value_set_of_ne notMode _

theorem Environment.unversionedSample_not_stands : ¬unversionedSample.PlanStands := by
  have seeds : unversionedSample.markerWord = "seed" := by cbv
  have unversioned : unversionedSample.value .markerVersion = none := by cbv
  simp [PlanStands, seeds, unversioned]

namespace CommandLine

theorem options_replace_sample_plan :
    let line := ["--marker", "seed", "--marker-version=1.0"]
    judge line (.sample "secret" "word") =
        judge [] ((Environment.sample "secret" "word").withMarker (some "seed") (some "1.0")) ∧
      judge line .unversionedSample = .refuseEnvironment .versionMissing := by
  intro line
  have flagged : read line = .accepted ⟨none, some .seed, some "1.0", false⟩ :=
    read_markerOptions .seed "1.0"
  have plain : read [] = .accepted ⟨none, none, none, false⟩ := rfl
  have versioned : Text.isBlankText "1.0" = false := by cbv
  have stands : (Environment.sample "secret" "word").PlanStands := .inl (by cbv)
  have fault : Environment.unversionedSample.planFault = .versionMissing := by cbv
  constructor
  · have accepted := Environment.sample_gives.load_unplanned
    exact (options_replace_standing_plans accepted versioned flagged plain).2.1 stands
  · have accepted := Environment.unversionedSample_gives.load_unplanned
    have refused := (options_replace_standing_plans accepted versioned flagged plain).2.2
      Environment.unversionedSample_not_stands
    rwa [fault] at refused

/-- A version on the command line comes too late for an environment that is told to seed without
one, though everything else in it is accepted. -/
theorem given_version_comes_late :
    let wanted := Environment.unversionedSample.withMarker (some "seed") (some "1.0")
    Settings.load (Environment.unversionedSample.withMarker none none) =
        .ok (.ofSample "secret" "word") ∧
      judge ["--marker", "seed", "--marker-version", "1.0"] .unversionedSample =
        .refuseEnvironment .versionMissing ∧
      judge [] wanted = .carryOut
        { Settings.ofSample "secret" "word" with plan := .seed "description" "1.0" } .up ∧
      judge ["--marker", "seed", "--marker-version", "1.0"] .unversionedSample ≠
        judge [] wanted := by
  intro wanted
  have flagged : read ["--marker", "seed", "--marker-version", "1.0"] =
      .accepted ⟨none, some .seed, some "1.0", false⟩ := by cbv
  have fault : Environment.unversionedSample.planFault = .versionMissing := by cbv
  have versioned : Text.isBlankText "1.0" = false := by cbv
  have gives := Environment.unversionedSample_gives
  have refused := judge_of_not_stands gives Environment.unversionedSample_not_stands flagged
  rw [fault] at refused
  have plain : read [] = .accepted ⟨none, none, none, false⟩ := rfl
  have carried : judge [] wanted = _ := judge_variables .seed gives versioned plain
  refine ⟨gives.load_unplanned, refused, carried, ?_⟩
  rw [refused, carried]
  intro same
  cases same

end CommandLine

end Provision
