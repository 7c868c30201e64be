import Provision.Proofs.Contract
/-!
Programs side by side, each under its own contract.

A world is a state with whatever has to be remembered about who did what. Each place acts on the
world in its own way, but answers as the handler does. Where the guarantee of each place is within
the rely of all others, programs that respect their contracts at the start end as their
postconditions say, whatever the schedule.
-/

namespace Provision

structure Interference {I : Interface} {σ : Type} (handler : Handler I σ) (W : Type) where
  /-- The state in a world. -/
  state : W → σ
  act : Nat → Handler I W
  contract : Nat → Contract W
  valid : W → Prop
  answers : ∀ place op world,
    handler op (state world) = ((act place op world).1, state (act place op world).2)
  valid_act : ∀ place op world, valid world →
    (contract place).guarantee world (act place op world).2 → valid (act place op world).2
  rely_act : ∀ place other op world, valid world → other ≠ place →
    (contract place).guarantee world (act place op world).2 →
      (contract other).rely world (act place op world).2

namespace Interference

open Program

variable {I : Interface} {α σ W : Type} {handler : Handler I σ}
variable (terms : Interference handler W)

abbrev Upholds (post : Nat → α → W → Prop) (place : Nat) (program : Program I α) (world : W) :
    Prop :=
  program.Respects (terms.act place) (terms.contract place) (post place) world

/-- What all other places may take a change by some places for. -/
def Spared (places : Nat → Prop) (before after : W) : Prop :=
  ∀ other, ¬places other → (terms.contract other).rely before after

variable {terms} {post : Nat → α → W → Prop}

theorem Spared.refl (places : Nat → Prop) (world : W) : terms.Spared places world world :=
  fun other _ => (terms.contract other).refl world

theorem Spared.trans {places : Nat → Prop} {first middle last : W}
    (start : terms.Spared places first middle) (rest : terms.Spared places middle last) :
    terms.Spared places first last :=
  fun other outside =>
    (terms.contract other).trans _ _ _ (start other outside) (rest other outside)

theorem Spared.mono {places more : Nat → Prop} {before after : W}
    (spared : terms.Spared places before after) (included : ∀ place, places place → more place) :
    terms.Spared more before after :=
  fun other outside => spared other fun inside => outside (included other inside)

theorem advance_upholds {place : Nat} {program : Program I α} {world : W}
    (valid : terms.valid world) (upholds : terms.Upholds post place program world) :
    ∃ later, terms.valid later ∧
      (program.advance handler (terms.state world)).state = terms.state later ∧
      terms.Upholds post place (program.advance handler (terms.state world)).value later ∧
      terms.Spared (· = place) world later := by
  induction program with
  | done value => exact ⟨world, valid, rfl, upholds, .refl _ _⟩
  | emit event rest ih => exact ih upholds
  | perform op next _ =>
    obtain ⟨kept, rest⟩ := upholds world ((terms.contract place).refl world)
    refine ⟨(terms.act place op world).2, terms.valid_act place op world valid kept, ?_, ?_, ?_⟩
    · simp only [advance, terms.answers place op world]
    · simpa only [advance, terms.answers place op world] using rest
    · exact fun other outside => terms.rely_act place other op world valid outside kept

theorem run_upholds {place : Nat} {program : Program I α} {world : W}
    (valid : terms.valid world) (upholds : terms.Upholds post place program world) :
    ∃ later, terms.valid later ∧
      (program.run handler (terms.state world)).state = terms.state later ∧
      terms.Upholds post place (.done (program.run handler (terms.state world)).value) later ∧
      terms.Spared (· = place) world later := by
  induction program generalizing world with
  | done value => exact ⟨world, valid, rfl, upholds, .refl _ _⟩
  | emit event rest ih => exact ih valid upholds
  | perform op next ih =>
    obtain ⟨kept, rest⟩ := upholds world ((terms.contract place).refl world)
    obtain ⟨later, laterValid, state, value, spared⟩ :=
      ih (terms.act place op world).1 (terms.valid_act place op world valid kept) rest
    have step : terms.Spared (· = place) world (terms.act place op world).2 :=
      fun other outside => terms.rely_act place other op world valid outside kept
    refine ⟨later, laterValid, ?_, ?_, step.trans spared⟩
    · simpa only [run, terms.answers place op world] using state
    · simpa only [run, terms.answers place op world] using value

theorem moveAt_upholds (place : Nat) {programs : List (Program I α)} {world : W}
    (valid : terms.valid world)
    (upholds : ∀ other program, programs[other]? = some program →
      terms.Upholds post other program world) :
    ∃ later, terms.valid later ∧
      (moveAt handler place programs (terms.state world)).state = terms.state later ∧
      (moveAt handler place programs (terms.state world)).value.length = programs.length ∧
      ∀ other program,
        (moveAt handler place programs (terms.state world)).value[other]? = some program →
          terms.Upholds post other program later := by
  unfold moveAt
  cases found : programs[place]? with
  | none => exact ⟨world, valid, rfl, rfl, upholds⟩
  | some moving =>
    obtain ⟨later, laterValid, state, value, spared⟩ :=
      advance_upholds valid (upholds place moving found)
    refine ⟨later, laterValid, state, List.length_set, fun other program standing => ?_⟩
    rw [List.getElem?_set] at standing
    split at standing
    case isTrue same =>
      obtain ⟨-, rfl⟩ : place < programs.length ∧ _ = program := by simpa using standing
      exact same ▸ value
    case isFalse different =>
      exact (upholds other program standing).later (spared other (Ne.symm different))

/-- Moving as a schedule says keeps what each place has still to do within its contract. -/
theorem interleave_upholds (schedule : List Nat) {programs : List (Program I α)} {world : W}
    (valid : terms.valid world)
    (upholds : ∀ place program, programs[place]? = some program →
      terms.Upholds post place program world) :
    ∃ later, terms.valid later ∧
      (interleave handler schedule programs (terms.state world)).state = terms.state later ∧
      (interleave handler schedule programs (terms.state world)).value.length = programs.length ∧
      ∀ place program,
        (interleave handler schedule programs (terms.state world)).value[place]? = some program →
          terms.Upholds post place program later := by
  induction schedule generalizing programs world with
  | nil => exact ⟨world, valid, rfl, rfl, upholds⟩
  | cons place rest ih =>
    obtain ⟨middle, middleValid, moved, length, standing⟩ :=
      moveAt_upholds place valid upholds
    obtain ⟨later, laterValid, state, count, value⟩ := ih middleValid standing
    refine ⟨later, laterValid, ?_, ?_, ?_⟩
    · simpa only [interleave, moved] using state
    · simpa only [interleave, moved] using count.trans length
    · simpa only [interleave, moved] using value

theorem runAll_upholds (start : Nat) {programs : List (Program I α)} {world : W}
    (valid : terms.valid world)
    (upholds : ∀ index program, programs[index]? = some program →
      terms.Upholds post (start + index) program world) :
    ∃ later, terms.valid later ∧
      (runAll handler programs (terms.state world)).state = terms.state later ∧
      (runAll handler programs (terms.state world)).value.length = programs.length ∧
      (∀ index value,
        (runAll handler programs (terms.state world)).value[index]? = some value →
          post (start + index) value later) ∧
      terms.Spared (start ≤ ·) world later := by
  induction programs generalizing start world with
  | nil => exact ⟨world, valid, rfl, rfl, by simp [runAll], .refl _ _⟩
  | cons program rest ih =>
    obtain ⟨middle, middleValid, first, value, spared⟩ :=
      run_upholds valid (upholds 0 program rfl)
    have others : ∀ index program, rest[index]? = some program →
        terms.Upholds post (start + 1 + index) program middle := fun index program found => by
      have before : terms.Upholds post (start + 1 + index) program world := by
        have at_later := upholds (index + 1) program found
        rwa [show start + (index + 1) = start + 1 + index by omega] at at_later
      exact before.later (spared _ (by omega))
    obtain ⟨later, laterValid, state, length, values, sparedRest⟩ :=
      ih (start + 1) middleValid others
    refine ⟨later, laterValid, ?_, ?_, ?_, ?_⟩
    · simpa only [runAll, first] using state
    · simpa only [runAll, first, List.length_cons, Nat.add_right_cancel_iff] using length
    · intro index last found
      cases index with
      | zero =>
        obtain rfl : (program.run handler (terms.state world)).value = last := by
          simpa [runAll] using found
        exact value later (sparedRest _ (by omega))
      | succ index =>
        have met := values index last (by simpa [runAll, first] using found)
        rwa [show start + 1 + index = start + (index + 1) by omega] at met
    · exact (spared.mono (by omega)).trans (sparedRest.mono (by omega))

/-- Whatever the schedule, every program ends, and as its postcondition says. -/
theorem runTogether_upholds (schedule : List Nat) {programs : List (Program I α)} {world : W}
    (valid : terms.valid world)
    (upholds : ∀ place program, programs[place]? = some program →
      terms.Upholds post place program world) :
    ∃ later, terms.valid later ∧
      (runTogether handler schedule programs (terms.state world)).state = terms.state later ∧
      (runTogether handler schedule programs (terms.state world)).value.length =
        programs.length ∧
      ∀ place value,
        (runTogether handler schedule programs (terms.state world)).value[place]? = some value →
          post place value later := by
  obtain ⟨middle, middleValid, mixed, length, standing⟩ :=
    interleave_upholds schedule valid upholds
  have waiting : ∀ index program,
      (interleave handler schedule programs (terms.state world)).value[index]? = some program →
        terms.Upholds post (0 + index) program middle := by
    simpa only [Nat.zero_add] using standing
  obtain ⟨later, laterValid, state, count, values, -⟩ := runAll_upholds 0 middleValid waiting
  refine ⟨later, laterValid, ?_, ?_, ?_⟩
  · simpa only [runTogether, mixed] using state
  · simpa only [runTogether, mixed] using count.trans length
  · simpa only [runTogether, mixed, Nat.zero_add] using values

end Interference

end Provision
