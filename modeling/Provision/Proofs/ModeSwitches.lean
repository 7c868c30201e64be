import Mathlib
import Provision.Proofs.MarkerOptions
/-!
Switching the marker's mode once the settings are loaded.

A version lives in the plan that seeds it and nowhere else. So a version that the environment sets
is remembered only if the environment is told to seed, and a switch to skipping forgets it for good.
-/

namespace Provision

namespace Settings

/-- Tries to replace the plan, time after time. A replacement that is refused changes nothing. -/
def overrideAll (settings : Settings) (overrides : List (String × Option String)) : Settings :=
  match overrides with
  | [] => settings
  | (mode, version) :: rest => match settings.overrideMarker mode version with
    | .error _ => overrideAll settings rest
    | .ok replaced => overrideAll replaced rest

def switches (modes : List MarkerMode) : List (String × Option String) :=
  modes.map fun mode => (mode.word, none)

variable {settings : Settings} {version : String}

theorem overrideMarker_skip (settings : Settings) (version : Option String) :
    settings.overrideMarker MarkerMode.skip.word version = .ok { settings with plan := .skip } := by
  simp only [overrideMarker, MarkerPlan.resolve, MarkerMode.ofWord_lowered_word]
  rfl

theorem overrideMarker_seed_of_skip (skips : settings.plan = .skip) :
    settings.overrideMarker MarkerMode.seed.word none = .error .versionMissing := by
  simp only [overrideMarker, skips, MarkerPlan.version, MarkerPlan.resolve,
    MarkerMode.ofWord_lowered_word]
  rfl

theorem overrideMarker_seed_of_seed (versioned : Text.isBlankText version = false)
    (seeds : settings.plan = .seed settings.markerCollection version) :
    settings.overrideMarker MarkerMode.seed.word none = .ok settings := by
  have kept : settings.plan.version = some version := congrArg MarkerPlan.version seeds
  have resolved := MarkerPlan.resolve_word .seed versioned settings.markerCollection
  unfold overrideMarker
  rw [Option.none_or, kept, resolved]
  simp only [MarkerMode.plan, ← seeds, Except.map]

/-- Nothing brings a version back. -/
theorem overrideAll_of_skip (skips : settings.plan = .skip) (modes : List MarkerMode) :
    settings.overrideAll (switches modes) = settings := by
  induction modes with
  | nil => rfl
  | cons mode rest ih =>
    cases mode with
    | skip =>
      have unmoved : { settings with plan := .skip } = settings := by rw [← skips]
      simp only [switches, List.map_cons, overrideAll, overrideMarker_skip, unmoved]
      exact ih
    | seed =>
      simp only [switches, List.map_cons, overrideAll, overrideMarker_seed_of_skip skips]
      exact ih

/-- A plan that seeds lasts until the first switch to skipping. -/
theorem overrideAll_of_seed (versioned : Text.isBlankText version = false)
    (seeds : settings.plan = .seed settings.markerCollection version) (modes : List MarkerMode) :
    settings.overrideAll (switches modes) =
      if .skip ∈ modes then { settings with plan := .skip } else settings := by
  induction modes with
  | nil => rfl
  | cons mode rest ih =>
    cases mode with
    | skip =>
      simp only [switches, List.map_cons, overrideAll, overrideMarker_skip, List.mem_cons, true_or,
        ↓reduceIte]
      exact overrideAll_of_skip rfl rest
    | seed =>
      simp only [switches, List.map_cons, overrideAll, overrideMarker_seed_of_seed versioned seeds,
        List.mem_cons, reduceCtorEq, false_or]
      exact ih

end Settings

theorem Environment.plan_of_versioned {env : Environment} {version collection : String}
    {plan : MarkerPlan} (given : env.value .markerVersion = some version)
    (planned : env.plan collection = .ok plan) :
    plan = if env.markerWord = "seed" then .seed collection version else .skip := by
  rcases MarkerPlan.resolve_eq_ok_iff.1 planned with
    ⟨skips, rfl⟩ | ⟨seeds, text, found, -, rfl⟩
  · have other : env.markerWord ≠ "seed" := by
      rw [markerWord, skips]
      decide
    rw [if_neg other]
  · obtain rfl := Option.some.inj (given.symm.trans found)
    exact (if_pos seeds).symm

/-- A version that the environment sets is at hand for seeding as long as the environment was told
to seed and no switch to skipping came in between. Otherwise the settings skip, and stay so: a
switch to seeding that names no version is refused. -/
theorem versions_last_with_their_plan {env : Environment} {settings : Settings} {version : String}
    (loaded : Settings.load env = .ok settings)
    (given : env Variable.markerVersion.name = some version)
    (versioned : Text.isBlankText version = false) (modes : List MarkerMode) :
    let later := settings.overrideAll (Settings.switches modes)
    let remembered := env.markerWord = "seed" ∧ .skip ∉ modes
    later = (if remembered then settings else { settings with plan := .skip }) ∧
      later.overrideMarker "seed" none =
        if remembered then
          .ok { settings with plan := .seed settings.markerCollection version }
        else .error .versionMissing := by
  intro later remembered
  obtain ⟨-, planned⟩ := Environment.load_eq_ok_iff.1 loaded
  have set : env.value .markerVersion = some version := by
    simp [Environment.value, given, Option.filter, Text.isEmpty_of_isBlankText versioned]
  have plan := Environment.plan_of_versioned set planned
  by_cases seeds : env.markerWord = "seed"
  · rw [if_pos seeds] at plan
    have reached : later = _ := Settings.overrideAll_of_seed versioned plan modes
    by_cases skipped : .skip ∈ modes
    · have forgotten : ¬remembered := fun kept => kept.2 skipped
      rw [if_pos skipped] at reached
      rw [if_neg forgotten, if_neg forgotten, reached]
      exact ⟨rfl, Settings.overrideMarker_seed_of_skip rfl⟩
    · have kept : remembered := ⟨seeds, skipped⟩
      rw [if_neg skipped] at reached
      rw [if_pos kept, if_pos kept, reached, ← plan]
      exact ⟨rfl, Settings.overrideMarker_seed_of_seed versioned plan⟩
  · have forgotten : ¬remembered := fun kept => seeds kept.1
    rw [if_neg seeds] at plan
    have reached : later = settings := Settings.overrideAll_of_skip plan modes
    rw [if_neg forgotten, if_neg forgotten, reached, ← plan]
    exact ⟨rfl, Settings.overrideMarker_seed_of_skip plan⟩

def Environment.versionedSample : Environment :=
  (sample "secret" "word").set .markerVersion (some "1.0")

def Environment.seedingSample : Environment :=
  versionedSample.set .marker (some " Seed")

theorem Environment.load_versionedSample :
    Settings.load versionedSample = .ok (.ofSample "secret" "word") := by
  have gives : versionedSample.Gives (.ofSample "secret" "word") :=
    sample_gives.congr fun _ _ notVersion => value_set_of_ne notVersion _
  exact load_eq_ok_iff.2 ⟨gives, by cbv⟩

theorem Environment.load_seedingSample : Settings.load seedingSample =
    .ok { Settings.ofSample "secret" "word" with plan := .seed "description" "1.0" } := by
  have gives : seedingSample.Gives (.ofSample "secret" "word") :=
    sample_gives.congr fun _ notMode notVersion =>
      (value_set_of_ne notMode _).trans (value_set_of_ne notVersion _)
  have planned : seedingSample.plan "description" = .ok (.seed "description" "1.0") := by cbv
  rw [gives.load,
    show (Settings.ofSample "secret" "word").markerCollection = "description" from rfl, planned]
  rfl

/-- Told to seed, the sample environment lends its version until the mode is switched to skip. -/
theorem seedingSample_lends_version :
    let settings : Settings :=
      { Settings.ofSample "secret" "word" with plan := .seed "description" "1.0" }
    (settings.overrideAll [("seed", none)]).overrideMarker "seed" none = .ok settings ∧
      (settings.overrideAll [("seed", none), ("skip", none)]).overrideMarker "seed" none =
        .error .versionMissing := by
  intro settings
  have seeds : Environment.seedingSample.markerWord = "seed" := by cbv
  have given : Environment.seedingSample Variable.markerVersion.name = some "1.0" := by cbv
  have versioned : Text.isBlankText "1.0" = false := by cbv
  have law := versions_last_with_their_plan Environment.load_seedingSample given versioned
  constructor
  · have lent := (law [.seed]).2
    rwa [if_pos ⟨seeds, by decide⟩] at lent
  · have forgotten := (law [.seed, .skip]).2
    rwa [if_neg (by simp)] at forgotten

/-- Not told to seed, it keeps its version to itself: a switch to seeding is refused, also right
after loading. -/
theorem versionedSample_keeps_version :
    let settings := Settings.ofSample "secret" "word"
    Environment.versionedSample Variable.markerVersion.name = some "1.0" ∧
      Text.isBlankText "1.0" = false ∧
      Settings.load Environment.versionedSample = .ok settings ∧
      settings.overrideMarker "seed" none = .error .versionMissing ∧
      settings.overrideMarker "seed" none ≠
        .ok { settings with plan := .seed settings.markerCollection "1.0" } := by
  intro settings
  have refused : settings.overrideMarker "seed" none = .error .versionMissing :=
    Settings.overrideMarker_seed_of_skip rfl
  refine ⟨by cbv, by cbv, Environment.load_versionedSample, refused, ?_⟩
  rw [refused]
  intro same
  cases same

end Provision
