import Mathlib.Logic.Function.Basic
import Mathlib.Order.Basic
import Provision.Proofs.Exchange
import Provision.Proofs.Interference
/-!
Programs on a shared state, each next to a shadow of its own.

The shadow of a place is the state that its program would be in by itself. If every operation that a
program performs by itself is answered by the shared state as by the shadow, then programs side by
side end with the values that they end with alone, each shadow is where the program alone leaves it,
and whatever relates the shared state to the shadows is kept.
-/

namespace Provision

/-- A shared state, and for each place the state that its program would be in alone. -/
structure Shadowed (σ : Type) where
  shared : σ
  own : Nat → σ

namespace Shadowed

variable {I : Interface} {σ : Type}

/-- A place moves the shared state and its own shadow, and is answered by the shared one. -/
def act (handler : Handler I σ) (place : Nat) : Handler I (Shadowed σ) := fun op world =>
  ((handler op world.shared).1,
    ⟨(handler op world.shared).2,
      Function.update world.own place (handler op (world.own place)).2⟩)

def contract (valid : Shadowed σ → Prop) (place : Nat) : Contract (Shadowed σ) where
  rely before after := after.own place = before.own place ∧ (valid before → valid after)
  guarantee before after := valid before → valid after
  refl _ := ⟨rfl, id⟩
  trans _ _ _ first rest := ⟨rest.1.trans first.1, rest.2 ∘ first.2⟩

def interference (handler : Handler I σ) (valid : Shadowed σ → Prop) :
    Interference handler (Shadowed σ) where
  state := shared
  act := act handler
  contract := contract valid
  valid := valid
  answers _ _ _ := rfl
  valid_act _ _ _ before kept := kept before
  rely_act _ _ _ _ _ away kept := ⟨Function.update_of_ne away _ _, kept⟩

end Shadowed

namespace Program

variable {I : Interface} {α β σ : Type}

def Steps (handler : Handler I σ) (may : I.Op → σ → Prop) : Program I α → σ → Prop
  | .done _, _ => True
  | .emit _ rest, state => Steps handler may rest state
  | .perform op next, state =>
    may op state ∧ Steps handler may (next (handler op state).1) (handler op state).2

variable {handler : Handler I σ} {may : I.Op → σ → Prop} {program : Program I α} {state : σ}

theorem Steps.bind {next : α → Program I β} (first : program.Steps handler may state)
    (rest : (next (program.run handler state).value).Steps handler may
      (program.run handler state).state) : (program.bind next).Steps handler may state := by
  induction program generalizing state with
  | done value => exact rest
  | emit event later ih => exact ih first rest
  | perform op reply ih => exact ⟨first.1, ih _ first.2 rest⟩

theorem Asks.steps {allowed : I.Op → Prop} (asks : program.Asks allowed)
    (within : ∀ op state, allowed op → may op state) (state : σ) :
    program.Steps handler may state := by
  induction program generalizing state with
  | done value => trivial
  | emit event rest ih => exact ih asks state
  | perform op next ih => exact ⟨within op state asks.1, ih _ (asks.2 _) _⟩

end Program

namespace Shadowed

open Program

variable {I : Interface} {α σ : Type} {handler : Handler I σ}
variable {valid : Shadowed σ → Prop} {may : Nat → I.Op → σ → Prop}

def Faithful (handler : Handler I σ) (valid : Shadowed σ → Prop) (may : Nat → I.Op → σ → Prop) :
    Prop :=
  ∀ place op world, valid world → may place op (world.own place) →
    (handler op world.shared).1 = (handler op (world.own place)).1 ∧
      valid (act handler place op world).2

/-- A program that keeps to what is allowed ends with its value and its shadow as alone, whatever
others do to the shared state meanwhile. -/
theorem Faithful.respects (faithful : Faithful handler valid may) {place : Nat}
    {program : Program I α} {world : Shadowed σ} (start : valid world)
    (steps : program.Steps handler (may place) (world.own place)) :
    program.Respects (act handler place) (contract valid place)
      (fun value last => value = (program.run handler (world.own place)).value ∧
        last.own place = (program.run handler (world.own place)).state) world := by
  induction program generalizing world with
  | done value => exact fun later moved => ⟨rfl, moved.1⟩
  | emit event rest ih => exact ih start steps
  | perform op next ih =>
    rintro later ⟨same, kept⟩
    rw [← same] at steps ⊢
    obtain ⟨reply, after⟩ := faithful place op later (kept start) steps.1
    have own : (act handler place op later).2.own place = (handler op (later.own place)).2 :=
      Function.update_self ..
    refine ⟨fun _ => after, ?_⟩
    have rest := ih (handler op (later.own place)).1 after (own ▸ steps.2)
    rw [own] at rest
    simpa only [act, reply, run] using rest

/-- Side by side, programs end as they do alone, whatever the schedule. -/
theorem Faithful.end_alike (faithful : Faithful handler valid may) (schedule : List Nat)
    {programs : List (Program I α)} {start : σ} (alike : valid ⟨start, fun _ => start⟩)
    (steps : ∀ place (program : Program I α), programs[place]? = some program →
      program.Steps handler (may place) start) :
    let together := runTogether handler schedule programs start
    together.value = programs.map (fun program => (program.run handler start).value) ∧
      ∃ own, valid ⟨together.state, own⟩ ∧
        ∀ place (program : Program I α), programs[place]? = some program →
          own place = (program.run handler start).state := by
  intro together
  let post (place : Nat) (value : α) (last : Shadowed σ) : Prop :=
    ∀ program : Program I α, programs[place]? = some program →
      value = (program.run handler start).value ∧
        last.own place = (program.run handler start).state
  have upholds : ∀ place program, programs[place]? = some program →
      (interference handler valid).Upholds post place program ⟨start, fun _ => start⟩ := by
    intro place program found
    refine (faithful.respects alike (steps place program found)).weaken ?_
    intro value last ended other standing
    obtain rfl := Option.some.inj (found.symm.trans standing)
    exact ended
  obtain ⟨later, kept, state, length, ended⟩ :=
    (interference handler valid).runTogether_upholds schedule alike upholds
  have alone : ∀ place (program : Program I α), programs[place]? = some program →
      together.value[place]? = some (program.run handler start).value ∧
        later.own place = (program.run handler start).state := by
    intro place program found
    have inside : place < together.value.length :=
      (List.getElem?_eq_some_iff.1 found).1.trans_eq length.symm
    have standing : together.value[place]? = some together.value[place] :=
      List.getElem?_eq_getElem inside
    obtain ⟨value, own⟩ := ended place _ standing program found
    exact ⟨standing.trans (congrArg some value), own⟩
  refine ⟨List.ext_getElem? fun place => ?_, later.own, ?_, fun place program found =>
    (alone place program found).2⟩
  · rw [List.getElem?_map]
    cases found : programs[place]? with
    | none =>
      have beyond : together.value.length ≤ place :=
        length.trans_le (List.getElem?_eq_none_iff.1 found)
      exact List.getElem?_eq_none beyond
    | some program => exact (alone place program found).1
  · have same : together.state = later.shared := state
    rw [same]
    exact kept

end Shadowed

end Provision
