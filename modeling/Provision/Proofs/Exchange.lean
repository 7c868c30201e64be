import Provision.Program
/-!
What a program asks for in a run, and the replies it gets.
-/

namespace Provision

structure Exchange (I : Interface) where
  op : I.Op
  reply : I.Reply op

namespace Program

variable {I : Interface} {α β σ : Type}

def trace (handler : Handler I σ) : Program I α → σ → List (Exchange I)
  | .done _, _ => []
  | .emit _ rest, state => trace handler rest state
  | .perform op next, state =>
    let answered := handler op state
    ⟨op, answered.1⟩ :: trace handler (next answered.1) answered.2

/-- Whatever the replies, the program asks only for operations that are allowed. -/
def Asks (allowed : I.Op → Prop) : Program I α → Prop
  | .done _ => True
  | .emit _ rest => Asks allowed rest
  | .perform op next => allowed op ∧ ∀ reply, Asks allowed (next reply)

theorem trace_bind (handler : Handler I σ) (program : Program I α) (next : α → Program I β)
    (state : σ) :
    (program.bind next).trace handler state =
      program.trace handler state ++ (next (program.run handler state).value).trace handler
        (program.run handler state).state := by
  induction program generalizing state with
  | done value => rfl
  | emit event rest ih => exact ih state
  | perform op reply ih => simp only [bind_perform, trace, run, ih, List.cons_append]

/-- What is done with the value of a program without asking for anything leaves no trace. -/
theorem trace_bind_of_quiet {handler : Handler I σ} {program : Program I α}
    {next : α → Program I β} (quiet : ∀ value state, (next value).trace handler state = [])
    (state : σ) : (program.bind next).trace handler state = program.trace handler state := by
  rw [trace_bind, quiet, List.append_nil]

theorem asks_anything (program : Program I α) : program.Asks fun _ => True := by
  induction program with
  | done value => trivial
  | emit event rest ih => exact ih
  | perform op next ih => exact ⟨trivial, ih⟩

theorem Asks.bind {allowed : I.Op → Prop} {program : Program I α} {next : α → Program I β}
    (first : program.Asks allowed) (rest : ∀ value, (next value).Asks allowed) :
    (program.bind next).Asks allowed := by
  induction program with
  | done value => exact rest value
  | emit event later ih => exact ih first
  | perform op reply ih => exact ⟨first.1, fun answer => ih answer (first.2 answer)⟩

theorem Asks.of_mem_trace {allowed : I.Op → Prop} {program : Program I α} {handler : Handler I σ}
    {state : σ} {exchange : Exchange I} (asks : program.Asks allowed)
    (member : exchange ∈ program.trace handler state) : allowed exchange.op := by
  induction program generalizing state with
  | done value => cases member
  | emit event rest ih => exact ih asks member
  | perform op next ih =>
    rcases List.mem_cons.1 member with rfl | later
    · exact asks.1
    · exact ih _ (asks.2 _) later

/-- What was exchanged was answered in some state on the way, with the rest of the run behind it. -/
theorem answered_of_mem_trace {handler : Handler I σ} {keeps : σ → Prop}
    (step : ∀ op state, keeps state → keeps (handler op state).2) {program : Program I α}
    {state : σ} (start : keeps state) {op : I.Op} {reply : I.Reply op}
    (member : ⟨op, reply⟩ ∈ program.trace handler state) :
    ∃ before, keeps before ∧ (handler op before).1 = reply ∧ ∃ rest : Program I α,
      (rest.run handler (handler op before).2).state = (program.run handler state).state := by
  induction program generalizing state with
  | done value => cases member
  | emit event rest ih => exact ih start member
  | perform first next ih =>
    rcases List.mem_cons.1 member with here | later
    · cases here
      exact ⟨state, start, rfl, next (handler op state).1, rfl⟩
    · exact ih _ (step first state start) later

theorem Asks.run_keeps {allowed : I.Op → Prop} {program : Program I α} {handler : Handler I σ}
    {keeps : σ → σ → Prop} (refl : ∀ state, keeps state state)
    (trans : ∀ first middle last, keeps first middle → keeps middle last → keeps first last)
    (step : ∀ op state, allowed op → keeps state (handler op state).2)
    (asks : program.Asks allowed) (state : σ) :
    keeps state (program.run handler state).state := by
  induction program generalizing state with
  | done value => exact refl state
  | emit event rest ih => exact ih asks state
  | perform op next ih => exact trans _ _ _ (step op state asks.1) (ih _ (asks.2 _) _)

/-- Where allowed operations cannot tell two states apart, a program that asks for nothing else
cannot either. -/
theorem Asks.run_alike {τ : Type} {allowed : I.Op → Prop} {program : Program I α}
    {handler : Handler I σ} {other : Handler I τ} {alike : σ → τ → Prop}
    (step : ∀ op first second, allowed op → alike first second →
      (handler op first).1 = (other op second).1 ∧ alike (handler op first).2 (other op second).2)
    (asks : program.Asks allowed) {first : σ} {second : τ} (start : alike first second) :
    program.trace handler first = program.trace other second ∧
      (program.run handler first).value = (program.run other second).value ∧
      (program.run handler first).log = (program.run other second).log ∧
      alike (program.run handler first).state (program.run other second).state := by
  induction program generalizing first second with
  | done value => exact ⟨rfl, rfl, rfl, start⟩
  | emit event rest ih =>
    obtain ⟨traces, values, logs, ends⟩ := ih asks start
    exact ⟨traces, values, congrArg (event :: ·) logs, ends⟩
  | perform op next ih =>
    obtain ⟨replies, states⟩ := step op first second asks.1 start
    simp only [trace, run]
    rw [← replies]
    obtain ⟨traces, values, logs, ends⟩ := ih (handler op first).1 (asks.2 _) states
    exact ⟨congrArg (_ :: ·) traces, values, logs, ends⟩

end Program

end Provision
