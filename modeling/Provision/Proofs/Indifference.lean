import Provision.Proofs.Exchange
/-!
Replies that make no difference.

Where alike replies lead a program on in the same way, up to what it logs, two of its runs that were
answered alike end with one value.
-/

namespace Provision

namespace Program

variable {I : Interface} {α β σ : Type}

def unlogged : Program I α → Program I α
  | .done value => .done value
  | .emit _ rest => unlogged rest
  | .perform op next => .perform op fun reply => unlogged (next reply)

theorem unlogged_bind (program : Program I α) (next : α → Program I β) :
    (program.bind next).unlogged = program.unlogged.bind fun value => (next value).unlogged := by
  induction program with
  | done value => rfl
  | emit event rest ih => exact ih
  | perform op reply ih => simp only [bind_perform, unlogged, ih]

theorem unlogged_run_value (handler : Handler I σ) (program : Program I α) (state : σ) :
    (program.unlogged.run handler state).value = (program.run handler state).value := by
  induction program generalizing state with
  | done value => rfl
  | emit event rest ih => exact ih state
  | perform op next ih => exact ih _ _

theorem unlogged_trace (handler : Handler I σ) (program : Program I α) (state : σ) :
    program.unlogged.trace handler state = program.trace handler state := by
  induction program generalizing state with
  | done value => rfl
  | emit event rest ih => exact ih state
  | perform op next ih => exact congrArg (_ :: ·) (ih _ _)

/-- Alike replies lead on in the same way, up to what is logged. -/
def Indifferent (alike : (op : I.Op) → I.Reply op → I.Reply op → Prop) : Program I α → Prop
  | .done _ => True
  | .emit _ rest => Indifferent alike rest
  | .perform op next =>
    (∀ reply other, alike op reply other → (next reply).unlogged = (next other).unlogged) ∧
    ∀ reply, Indifferent alike (next reply)

theorem Indifferent.bind {alike : (op : I.Op) → I.Reply op → I.Reply op → Prop}
    {program : Program I α} {next : α → Program I β} (first : program.Indifferent alike)
    (later : ∀ value, (next value).Indifferent alike) : (program.bind next).Indifferent alike := by
  induction program with
  | done value => exact later value
  | emit event rest ih => exact ih first
  | perform op answer ih =>
    obtain ⟨same, rest⟩ := first
    refine ⟨fun reply other agree => ?_, fun reply => ih reply (rest reply)⟩
    rw [unlogged_bind, unlogged_bind, same reply other agree]

end Program

/-- Wherever two runs have asked the same, they were answered alike. -/
def AnsweredAlike {I : Interface} (alike : (op : I.Op) → I.Reply op → I.Reply op → Prop)
    (first second : List (Exchange I)) : Prop :=
  ∀ (index : Nat) (op : I.Op) (reply other : I.Reply op),
    first[index]? = some ⟨op, reply⟩ → second[index]? = some ⟨op, other⟩ → alike op reply other

variable {I : Interface} {alike : (op : I.Op) → I.Reply op → I.Reply op → Prop}

theorem AnsweredAlike.nil : AnsweredAlike alike ([] : List (Exchange I)) [] := by
  intro index op reply other found
  cases found

theorem AnsweredAlike.cons {first second : List (Exchange I)} {op : I.Op} {reply other : I.Reply op}
    (here : alike op reply other) (later : AnsweredAlike alike first second) :
    AnsweredAlike alike (⟨op, reply⟩ :: first) (⟨op, other⟩ :: second) := by
  intro index asked one another found again
  cases index with
  | zero =>
    cases found
    cases again
    exact here
  | succ index => exact later index asked one another found again

theorem AnsweredAlike.tail {first second : List (Exchange I)} {one other : Exchange I}
    (agree : AnsweredAlike alike (one :: first) (other :: second)) :
    AnsweredAlike alike first second :=
  fun index => agree (index + 1)

theorem Program.Indifferent.value_eq {α σ τ : Type} {program : Program I α}
    (indifferent : program.Indifferent alike) (handler : Handler I σ) (other : Handler I τ)
    (state : σ) (start : τ)
    (agree : AnsweredAlike alike (program.trace handler state) (program.trace other start)) :
    (program.run handler state).value = (program.run other start).value := by
  induction program generalizing state start with
  | done value => rfl
  | emit event rest ih => exact ih indifferent state start agree
  | perform op next ih =>
    -- The replies may differ, and so may what is logged behind them, but not how it goes on.
    obtain ⟨same, rest⟩ := indifferent
    have later := agree.tail
    have onward := same _ _ (agree 0 op _ _ rfl rfl)
    rw [← unlogged_trace other, ← onward, unlogged_trace] at later
    simp only [run]
    rw [← unlogged_run_value other, ← onward, unlogged_run_value]
    exact ih _ (rest _) _ _ later

end Provision
