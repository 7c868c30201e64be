import Provision.Event
/-!
Programs over an interface.

An interface lists operations and the reply that each one gets. A program performs operations one
at a time, writes events, and goes on from whatever reply it gets; it knows nothing of who replies.
Running one needs a handler, which answers each operation and moves a state. A program can also be
carried over to another interface, operation by operation.
-/

namespace Provision

structure Interface where
  Op : Type
  Reply : Op → Type

inductive Program (I : Interface) (α : Type) : Type where
  | done (value : α)
  | emit (event : Event) (rest : Program I α)
  | perform (op : I.Op) (next : I.Reply op → Program I α)

abbrev Handler (I : Interface) (σ : Type) : Type :=
  (op : I.Op) → σ → I.Reply op × σ

/-- What a finished run leaves: its value, what it logged, and the state it ended in. -/
structure Run (σ α : Type) where
  value : α
  log : List Event
  state : σ

namespace Program

variable {I J K : Interface} {α β γ σ : Type}

def bind (program : Program I α) (next : α → Program I β) : Program I β :=
  match program with
  | .done value => next value
  | .emit event rest => .emit event (bind rest next)
  | .perform op reply => .perform op fun answer => bind (reply answer) next

instance : Monad (Program I) where
  pure := .done
  bind := bind

def ask (op : I.Op) : Program I (I.Reply op) :=
  .perform op .done

def run (handler : Handler I σ) : Program I α → σ → Run σ α
  | .done value, state => ⟨value, [], state⟩
  | .emit event rest, state =>
    let later := run handler rest state
    { later with log := event :: later.log }
  | .perform op next, state =>
    let answered := handler op state
    run handler (next answered.1) answered.2

/-- Replaces each operation by a program that finds its reply. -/
def via (means : (op : I.Op) → Program J (I.Reply op)) : Program I α → Program J α
  | .done value => .done value
  | .emit event rest => .emit event (via means rest)
  | .perform op next => (means op).bind fun answer => via means (next answer)

@[simp] theorem bind_done (value : α) (next : α → Program I β) :
    bind (.done value) next = next value := rfl

@[simp] theorem bind_emit (event : Event) (rest : Program I α) (next : α → Program I β) :
    bind (.emit event rest) next = .emit event (bind rest next) := rfl

@[simp] theorem bind_perform (op : I.Op) (reply : I.Reply op → Program I α)
    (next : α → Program I β) :
    bind (.perform op reply) next = .perform op fun answer => bind (reply answer) next := rfl

theorem done_bind_self (program : Program I α) : program.bind .done = program := by
  induction program with
  | done value => rfl
  | emit event rest ih => simp [ih]
  | perform op next ih => simp [ih]

theorem bind_assoc (program : Program I α) (next : α → Program I β) (last : β → Program I γ) :
    (program.bind next).bind last = program.bind fun value => (next value).bind last := by
  induction program with
  | done value => rfl
  | emit event rest ih => simp [ih]
  | perform op reply ih => simp [ih]

/-- A run of two programs in a row is the second run from where the first one stopped. -/
theorem run_bind (handler : Handler I σ) (program : Program I α) (next : α → Program I β)
    (state : σ) :
    (program.bind next).run handler state =
      let first := program.run handler state
      let second := (next first.value).run handler first.state
      ⟨second.value, first.log ++ second.log, second.state⟩ := by
  induction program generalizing state with
  | done value => simp [run]
  | emit event rest ih => simp [run, ih]
  | perform op reply ih => simp [run, ih]

theorem via_bind (means : (op : I.Op) → Program J (I.Reply op)) (program : Program I α)
    (next : α → Program I β) :
    (program.bind next).via means =
      (program.via means).bind fun value => (next value).via means := by
  induction program with
  | done value => rfl
  | emit event rest ih => simp [via, ih]
  | perform op reply ih => simp [via, ih, bind_assoc]

theorem via_via (means : (op : I.Op) → Program J (I.Reply op))
    (lower : (op : J.Op) → Program K (J.Reply op)) (program : Program I α) :
    (program.via means).via lower = program.via fun op => (means op).via lower := by
  induction program with
  | done value => rfl
  | emit event rest ih => simp [via, ih]
  | perform op next ih => simp [via, via_bind, ih]

end Program

end Provision
