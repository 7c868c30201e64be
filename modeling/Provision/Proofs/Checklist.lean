import Mathlib
import Provision.Proofs.FirstFault
import Provision.Proofs.GrantGrammar
import Provision.Proofs.MarkerOptions
/-!
Which environments are accepted.

Ten variables can be at fault, each in its own way, and they are gone through in a fixed order. An
environment is accepted exactly if none of them is at fault, and then every setting is what its
variable says or its default. Otherwise the first fault is reported, by a message that names the
variable.
-/

namespace Provision

/-- The variables that can be at fault, in the order in which their faults are found. -/
def Variable.inOrder : List Variable :=
  [.portNumber, .adminUsername, .adminPassword, .database, .roles, .username, .password, .marker,
    .markerVersion, .verifyLogin]

def Variable.mandatory : List Variable :=
  [.adminUsername, .adminPassword, .database, .username, .password]

namespace Text

/-- Holds of a text that writes a number in decimal digits, after a plus sign or not. -/
def IsNumeral (text : String) (value : Nat) : Prop :=
  ∃ digits, (text.toList = digits ∨ text.toList = '+' :: digits) ∧ digits ≠ [] ∧
    (∀ c ∈ digits, c.isDigit) ∧
    value = Nat.ofDigits 10 (digits.reverse.map fun c => c.toNat - '0'.toNat)

/-- The form in which words are compared. -/
def word (text : String) : String :=
  lowered (trim text)

inductive Switches : String → Bool → Prop
  | on {word : String} (listed : word ∈ ["1", "true", "yes", "on"]) : Switches word true
  | off {word : String} (listed : word ∈ ["0", "false", "no", "off"]) : Switches word false

end Text

namespace Environment

/-- What a variable is read as: its meaning if it is set, or else a default. -/
inductive Reads {α : Type} (env : Environment) (v : Variable) (meaning : String → α → Prop)
    (default : α) : α → Prop
  | unset (absent : env.value v = none) : Reads env v meaning default default
  | given {text : String} {value : α} (present : env.value v = some text)
      (means : meaning text value) : Reads env v meaning default value

inductive Plans (env : Environment) (collection : String) : MarkerPlan → Prop
  | skip (skips : env.Reads .marker (fun text word => word = Text.word text) "skip" "skip") :
      Plans env collection .skip
  | seed {version : String}
      (seeds : env.Reads .marker (fun text word => word = Text.word text) "skip" "seed")
      (given : env.value .markerVersion = some version)
      (versioned : ∃ c ∈ version.toList, ¬Text.isBlank c) :
      Plans env collection (.seed collection version)

inductive Faulty (env : Environment) : Variable → SettingsFault → Prop
  | portNumber {text : String} (given : env.value .portNumber = some text)
      (unread : ¬∃ value ≤ 65535, Text.IsNumeral text value) :
      Faulty env .portNumber (.malformedPortNumber text)
  | missing {v : Variable} (mandatory : v ∈ Variable.mandatory) (absent : env.value v = none) :
      Faulty env v (.missing v)
  | roles {target entry : String} (targeted : env.value .database = some target)
      (refused : Grant.parse target (env.valueOr .roles "dbOwner") = .error entry) :
      Faulty env .roles (.malformedGrant entry)
  | marker {text : String} (given : env.value .marker = some text)
      (unknown : Text.word text ≠ "skip" ∧ Text.word text ≠ "seed") :
      Faulty env .marker (.unknownMode (Text.word text))
  | markerVersion {text : String} (given : env.value .marker = some text)
      (seeds : Text.word text = "seed")
      (unversioned : ∀ version, env.value .markerVersion = some version →
        ∀ c ∈ version.toList, Text.isBlank c) :
      Faulty env .markerVersion .versionMissing
  | verifyLogin {text : String} (given : env.value .verifyLogin = some text)
      (unread : ∀ value, ¬Text.Switches (Text.word text) value) :
      Faulty env .verifyLogin (.malformedSwitch .verifyLogin text)

variable {env : Environment} {fault : SettingsFault} {settings : Settings}

section

variable {α : Type} {v : Variable} {meaning : String → α → Prop} {default value : α}

theorem reads_of_none (absent : env.value v = none) :
    env.Reads v meaning default value ↔ value = default := by
  constructor
  · rintro (absent | ⟨present, means⟩)
    · rfl
    · rw [absent] at present
      cases present
  · rintro rfl
    exact .unset absent

theorem reads_of_some {text : String} (present : env.value v = some text) :
    env.Reads v meaning default value ↔ meaning text value := by
  constructor
  · rintro (absent | ⟨given, means⟩)
    · rw [present] at absent
      cases absent
    · obtain rfl := Option.some.inj (present.symm.trans given)
      exact means
  · exact .given present

end

theorem reads_markerWord_iff {word : String} :
    env.Reads .marker (fun text word => word = Text.word text) "skip" word ↔
      word = env.markerWord := by
  have unset : Text.word "skip" = "skip" := by cbv
  unfold markerWord valueOr
  rw [← Text.word]
  cases given : env.value .marker with
  | none => rw [reads_of_none given, Option.getD_none, unset]
  | some text => rw [reads_of_some given, Option.getD_some]

theorem isBlankText_eq_false_iff {text : String} :
    Text.isBlankText text = false ↔ ∃ c ∈ text.toList, ¬Text.isBlank c := by
  simp [Text.isBlankText]

theorem Plans.made {collection : String} {plan : MarkerPlan} (plans : env.Plans collection plan) :
    env.plan collection = .ok plan := by
  apply MarkerPlan.resolve_eq_ok_iff.2
  cases plans with
  | skip skips => exact .inl ⟨(reads_markerWord_iff.1 skips).symm, rfl⟩
  | seed seeds given versioned =>
    exact .inr ⟨(reads_markerWord_iff.1 seeds).symm, _, given,
      isBlankText_eq_false_iff.2 versioned, rfl⟩

theorem PlanStands.plans (stands : env.PlanStands) (collection : String) :
    ∃ plan, env.Plans collection plan := by
  rcases stands with skips | ⟨seeds, version, given, versioned⟩
  · exact ⟨.skip, .skip (reads_markerWord_iff.2 skips.symm)⟩
  · have kept := isBlankText_eq_false_iff.1 versioned
    exact ⟨.seed collection version, .seed (reads_markerWord_iff.2 seeds.symm) given kept⟩

end Environment

def SettingsFault.Names (fault : SettingsFault) (v : Variable) : Prop :=
  ∃ before after, fault.message = before ++ ("'" ++ v.name ++ "'") ++ after

namespace SettingsFault

variable {fault : SettingsFault} {v : Variable} {lead rest opening before after text : String}

theorem names_of_message (leads : lead = before ++ "'") (follows : rest = "'" ++ after)
    (same : fault.message = lead ++ v.name ++ rest) : fault.Names v := by
  refine ⟨before, after, ?_⟩
  rw [same, leads, follows]
  simp only [String.append_assoc]

theorem follows_of_opening (opens : opening = "'" ++ after) (text rest : String) :
    opening ++ text ++ rest = "'" ++ (after ++ text ++ rest) := by
  rw [opens]
  simp only [String.append_assoc]

end SettingsFault

namespace Environment

variable {env : Environment} {v : Variable} {fault : SettingsFault}

theorem Faulty.names (struck : env.Faulty v fault) : fault.Names v := by
  have leads : "Environment variable '" = "Environment variable " ++ "'" := by decide
  cases struck with
  | @portNumber text =>
    have opens : "' must be a port number, got: '" = "'" ++ " must be a port number, got: '" := by
      decide
    exact SettingsFault.names_of_message leads (SettingsFault.follows_of_opening opens text "'") rfl
  | missing _ _ =>
    have leads : "Required environment variable '" = "Required environment variable " ++ "'" := by
      decide
    have follows : "' is not set" = "'" ++ " is not set" := by decide
    exact SettingsFault.names_of_message leads follows rfl
  | @roles _ entry =>
    have opens : "' has a malformed entry: '" = "'" ++ " has a malformed entry: '" := by decide
    exact SettingsFault.names_of_message leads (SettingsFault.follows_of_opening opens entry _) rfl
  | @marker text =>
    have opens : "' must be 'skip' or 'seed', got: '" =
        "'" ++ " must be 'skip' or 'seed', got: '" := by
      decide
    exact SettingsFault.names_of_message leads (SettingsFault.follows_of_opening opens _ "'") rfl
  | markerVersion =>
    have leads : "Marker mode 'seed' requires '" = "Marker mode 'seed' requires " ++ "'" := by
      decide
    have follows : "' to be set" = "'" ++ " to be set" := by decide
    exact SettingsFault.names_of_message leads follows rfl
  | @verifyLogin text =>
    have opens : "' must be a boolean, got: '" = "'" ++ " must be a boolean, got: '" := by decide
    exact SettingsFault.names_of_message leads (SettingsFault.follows_of_opening opens text "'") rfl

end Environment

end Provision
