import Mathlib.Logic.Relation
import Provision.Interleaving
/-!
Contracts: what a program may count on while others move the state, and what it answers for.

A program respects a contract from a state when each of its operations keeps the guarantee, and the
value it ends with meets a postcondition from then on, however the state moves within the rely
between any two of its operations. With nobody else around this is what a run alone does.
-/

namespace Provision

/-- The terms between a program and everything else that moves the state. -/
structure Contract (σ : Type) where
  /-- What others may do between two operations of the program. -/
  rely : σ → σ → Prop
  /-- What each of its own operations does. -/
  guarantee : σ → σ → Prop
  refl : ∀ state, rely state state
  trans : ∀ first middle last, rely first middle → rely middle last → rely first last

def Contract.alone {σ : Type} (guarantee : σ → σ → Prop) : Contract σ where
  rely := Eq
  guarantee := guarantee
  refl := Eq.refl
  trans := fun _ _ _ => Eq.trans

namespace Program

variable {I : Interface} {α β σ : Type}

def Respects (handler : Handler I σ) (contract : Contract σ) (post : α → σ → Prop) :
    Program I α → σ → Prop
  | .done value, state => ∀ later, contract.rely state later → post value later
  | .emit _ rest, state => Respects handler contract post rest state
  | .perform op next, state => ∀ later, contract.rely state later →
      contract.guarantee later (handler op later).2 ∧
        Respects handler contract post (next (handler op later).1) (handler op later).2

def advances (handler : Handler I σ) : Nat → Program I α → σ → Run σ (Program I α)
  | 0, program, state => ⟨program, [], state⟩
  | count + 1, program, state =>
    let first := program.advance handler state
    let rest := advances handler count first.value first.state
    { rest with log := first.log ++ rest.log }

variable {handler : Handler I σ} {contract : Contract σ} {post : α → σ → Prop}
variable {program : Program I α} {state : σ}

theorem Respects.later (respects : program.Respects handler contract post state) {later : σ}
    (moved : contract.rely state later) : program.Respects handler contract post later := by
  induction program generalizing state with
  | done value =>
    intro last rest
    exact respects last (contract.trans _ _ _ moved rest)
  | emit event rest ih => exact ih respects moved
  | perform op next _ =>
    intro last rest
    exact respects last (contract.trans _ _ _ moved rest)

theorem Respects.weaken {weaker : α → σ → Prop}
    (respects : program.Respects handler contract post state)
    (implies : ∀ value last, post value last → weaker value last) :
    program.Respects handler contract weaker state := by
  induction program generalizing state with
  | done value => exact fun later moved => implies value later (respects later moved)
  | emit event rest ih => exact ih respects
  | perform op next ih =>
    intro later moved
    obtain ⟨kept, rest⟩ := respects later moved
    exact ⟨kept, ih _ rest⟩

theorem Respects.and {other : α → σ → Prop}
    (first : program.Respects handler contract post state)
    (second : program.Respects handler contract other state) :
    program.Respects handler contract (fun value last => post value last ∧ other value last)
      state := by
  induction program generalizing state with
  | done value => exact fun later moved => ⟨first later moved, second later moved⟩
  | emit event rest ih => exact ih first second
  | perform op next ih =>
    intro later moved
    obtain ⟨kept, restFirst⟩ := first later moved
    exact ⟨kept, ih _ restFirst (second later moved).2⟩

theorem Respects.bind {post : β → σ → Prop} {next : α → Program I β}
    (first : program.Respects handler contract
      (fun value middle => (next value).Respects handler contract post middle) state) :
    (program.bind next).Respects handler contract post state := by
  induction program generalizing state with
  | done value => exact first state (contract.refl state)
  | emit event rest ih => exact ih first
  | perform op reply ih =>
    intro later moved
    obtain ⟨kept, rest⟩ := first later moved
    exact ⟨kept, ih _ rest⟩

theorem Respects.advance (respects : program.Respects handler contract post state) :
    (program.advance handler state).value.Respects handler contract post
      (program.advance handler state).state := by
  induction program generalizing state with
  | done value => exact respects
  | emit event rest ih => exact ih respects
  | perform op next _ => exact (respects state (contract.refl state)).2

theorem Respects.advance_guarantee (respects : program.Respects handler contract post state) :
    Relation.ReflTransGen contract.guarantee state (program.advance handler state).state := by
  induction program generalizing state with
  | done value => exact .refl
  | emit event rest ih => exact ih respects
  | perform op next _ => exact .single (respects state (contract.refl state)).1

/-- Wherever a program is stopped, its operations so far have kept the guarantee. -/
theorem Respects.advances_guarantee (respects : program.Respects handler contract post state)
    (count : Nat) : Relation.ReflTransGen contract.guarantee state
      (program.advances handler count state).state := by
  induction count generalizing program state with
  | zero => exact .refl
  | succ count ih => exact respects.advance_guarantee.trans (ih respects.advance)

theorem Respects.run_guarantee (respects : program.Respects handler contract post state) :
    Relation.ReflTransGen contract.guarantee state (program.run handler state).state := by
  induction program generalizing state with
  | done value => exact .refl
  | emit event rest ih => exact ih respects
  | perform op next ih =>
    obtain ⟨kept, rest⟩ := respects state (contract.refl state)
    exact .head kept (ih _ rest)

end Program

end Provision
