import Provision.Program
/-!
Retrying a connection: a bounded number of attempts with a pause between them.

Only an unavailable datastore is asked again. Any other fault, and any success, ends the matter at
once, and there is no pause after the last attempt.
-/

namespace Provision

namespace Retry

variable {I : Interface} {α : Type}

/-- Makes the attempt of a number, and the later ones that may become necessary; so many are left
after it. -/
def attemptFrom (connect : Program I (Except Fault α)) (pause : UInt64 → Program I Unit)
    (limit : Nat) (interval : UInt64) (number : Nat) (left : Nat) :
    Program I (Except Fault α) :=
  connect.bind fun
    | .ok value =>
      if 1 < number then .emit (.attemptSucceeded number interval) (.done (.ok value))
      else .done (.ok value)
    | .error fault =>
      match left with
      | 0 => .done (.error fault)
      | left + 1 =>
        if fault.isRetryable then
          .emit (.attemptFailed number limit interval fault)
            ((pause interval).bind fun () =>
              attemptFrom connect pause limit interval (number + 1) left)
        else .done (.error fault)

/-- How many attempts are made at most: a limit of zero still allows one. -/
def limitOf (attempts : UInt32) : Nat :=
  max 1 attempts.toNat

end Retry

def retry {I : Interface} {α : Type} (connect : Program I (Except Fault α))
    (pause : UInt64 → Program I Unit) (attempts : UInt32) (interval : UInt64) :
    Program I (Except Fault α) :=
  Retry.attemptFrom connect pause (Retry.limitOf attempts) interval 1 (Retry.limitOf attempts - 1)

namespace Retry

inductive Step where
  | attempt
  | pause (milliseconds : UInt64)
deriving DecidableEq

abbrev Steps (α : Type) : Interface where
  Op := Step
  Reply
    | .attempt => Except Fault α
    | .pause _ => Unit

def bare (α : Type) (attempts : UInt32) (interval : UInt64) : Program (Steps α) (Except Fault α) :=
  retry (.ask (I := Steps α) .attempt) (fun ms => .ask (I := Steps α) (.pause ms)) attempts interval

/-- Outcomes on a clock that only pauses move: the n-th attempt has the n-th outcome. -/
structure Timeline (α : Type) where
  outcomes : Nat → Except Fault α
  attempts : Nat := 0
  /-- The time paused, in milliseconds. -/
  elapsed : Nat := 0

def Timeline.handler {α : Type} : Handler (Steps α) (Timeline α)
  | .attempt, timeline =>
    (timeline.outcomes timeline.attempts, { timeline with attempts := timeline.attempts + 1 })
  | .pause milliseconds, timeline =>
    ((), { timeline with elapsed := timeline.elapsed + milliseconds.toNat })

end Retry

end Provision
