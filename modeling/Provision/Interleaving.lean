import Provision.Program
/-!
Programs that run side by side on one state.

A schedule names, step by step, the program that moves next. A move performs one operation; what a
program logs before it belongs to the move. Whatever the schedule leaves over is finished program by
program, so every schedule leads to an end.
-/

namespace Provision

namespace Program

variable {I : Interface} {α σ : Type}

/-- Goes on to just behind the next operation. -/
def advance (handler : Handler I σ) : Program I α → σ → Run σ (Program I α)
  | .done value, state => ⟨.done value, [], state⟩
  | .emit event rest, state =>
    let later := advance handler rest state
    { later with log := event :: later.log }
  | .perform op next, state =>
    let answered := handler op state
    ⟨next answered.1, [], answered.2⟩

/-- Moves the program at one place; a place without a program is passed over. -/
def moveAt (handler : Handler I σ) (place : Nat) (programs : List (Program I α)) (state : σ) :
    Run σ (List (Program I α)) :=
  match programs[place]? with
  | none => ⟨programs, [], state⟩
  | some program =>
    let moved := program.advance handler state
    ⟨programs.set place moved.value, moved.log, moved.state⟩

def interleave (handler : Handler I σ) (schedule : List Nat) (programs : List (Program I α))
    (state : σ) : Run σ (List (Program I α)) :=
  match schedule with
  | [] => ⟨programs, [], state⟩
  | place :: rest =>
    let moved := moveAt handler place programs state
    let later := interleave handler rest moved.value moved.state
    { later with log := moved.log ++ later.log }

def runAll (handler : Handler I σ) : List (Program I α) → σ → Run σ (List α)
  | [], state => ⟨[], [], state⟩
  | program :: rest, state =>
    let first := program.run handler state
    let others := runAll handler rest first.state
    ⟨first.value :: others.value, first.log ++ others.log, others.state⟩

def runTogether (handler : Handler I σ) (schedule : List Nat) (programs : List (Program I α))
    (state : σ) : Run σ (List α) :=
  let mixed := interleave handler schedule programs state
  let ended := runAll handler mixed.value mixed.state
  { ended with log := mixed.log ++ ended.log }

end Program

end Provision
