import Provision.Proofs.Indifference
import Provision.Task
/-!
What a close answers is logged and forgotten.

A program that ignores closing goes on in one way behind a close, whatever it was answered, up to
what it logs. Two runs of such a program that were answered alike up to closes end with one value.
-/

namespace Provision

namespace Program

variable {α β S : Type}

/-- Whatever a close answers, the program goes on in the same way, up to what it logs. -/
def IgnoresClosing : Program (Store S) α → Prop
  | .done _ => True
  | .emit _ rest => IgnoresClosing rest
  | .perform op next =>
    ((∃ session, op = .close session) → ∀ reply other,
      (next reply).unlogged = (next other).unlogged) ∧
    ∀ reply, IgnoresClosing (next reply)

theorem IgnoresClosing.bind {program : Program (Store S) α} {next : α → Program (Store S) β}
    (first : program.IgnoresClosing) (later : ∀ value, (next value).IgnoresClosing) :
    (program.bind next).IgnoresClosing := by
  induction program with
  | done value => exact later value
  | emit event rest ih => exact ih first
  | perform op answer ih =>
    obtain ⟨same, rest⟩ := first
    refine ⟨fun closing reply other => ?_, fun reply => ih reply (rest reply)⟩
    rw [unlogged_bind, unlogged_bind, same closing reply other]

def AlikeButClosing (op : StoreOp S) (reply other : op.Reply) : Prop :=
  (∀ session, op ≠ .close session) → reply = other

theorem IgnoresClosing.indifferent {program : Program (Store S) α}
    (ignores : program.IgnoresClosing) : program.Indifferent AlikeButClosing := by
  induction program with
  | done value => trivial
  | emit event rest ih => exact ih ignores
  | perform op next ih =>
    obtain ⟨same, rest⟩ := ignores
    refine ⟨fun reply other alike => ?_, fun reply => ih reply (rest reply)⟩
    by_cases closing : ∃ session, op = .close session
    · exact same closing reply other
    · rw [alike fun session same => closing ⟨session, same⟩]

theorem ignoresClosing_on (session : S) (body : Program Calls α) :
    (body.on session).IgnoresClosing := by
  induction body with
  | done value => trivial
  | emit event rest ih => exact ih
  | perform asked next ih => exact ⟨by simp, ih⟩

end Program

section

open Program

variable {S : Type}

theorem ignoresClosing_withSession {α : Type} (operation : Operation) (scope : String)
    (credentials : Credentials) (body : Program Calls α) :
    (withSession (S := S) operation scope credentials body).IgnoresClosing := by
  refine ⟨by simp, ?_⟩
  rintro (fault | session)
  · trivial
  · refine (ignoresClosing_on session body).bind fun value => ⟨?_, ?_⟩
    · rintro - (fault | closed) (fault | closed) <;> rfl
    · rintro (fault | closed) <;> trivial

/-- Tasks are made of sessions, one behind the other, with events around them. -/
theorem task_induction {motive : ∀ {α : Type}, Program (Store S) α → Prop}
    (done : ∀ {α : Type} (value : α), motive (.done value))
    (emit : ∀ {α : Type} {rest : Program (Store S) α} (event : Event), motive rest →
      motive (.emit event rest))
    (bind : ∀ {α β : Type} {first : Program (Store S) α} {next : α → Program (Store S) β},
      motive first → (∀ value, motive (next value)) → motive (first.bind next))
    (session : ∀ {α : Type} (operation : Operation) (scope : String) (credentials : Credentials)
      (body : Program Calls α), motive (withSession operation scope credentials body))
    {α : Type} (task : Task α) : motive (task.program (S := S)) := by
  have provision (request : Request) : motive (request.provision (S := S)) := by
    refine emit _ (bind (session .provision _ _ _) ?_)
    rintro (fault | failure | report)
    · exact done _
    · exact emit _ (done _)
    · exact emit _ (done _)
  have verifyLogin (target : String) (credentials : Credentials) :
      motive (verifyLogin (S := S) target credentials) := by
    refine bind (session .verifyLogin _ _ _) ?_
    rintro (fault | passed)
    · exact done _
    · exact emit _ (done _)
  have inspect (scope : String) (admin : Credentials) (target collection : String) :
      motive (inspect (S := S) scope admin target collection) := by
    unfold inspect
    split
    · exact done _
    · refine bind (session .inspect _ _ _) ?_
      rintro (fault | result) <;> exact done _
  cases task with
  | provision request => exact provision request
  | verifyLogin target credentials => exact verifyLogin target credentials
  | inspect scope admin target collection => exact inspect scope admin target collection
  | orchestrate settings command stamp =>
    cases command with
    | up =>
      refine bind (provision _) ?_
      rintro (failure | report)
      · exact done _
      refine bind ?_ ?_
      · unfold Settings.checkLogin
        split
        · exact verifyLogin _ _
        · exact emit _ (done _)
      · rintro (failure | passed) <;> exact done _
    | status =>
      refine bind (inspect _ _ _ _) ?_
      rintro (failure | report)
      · exact done _
      · exact emit _ (done _)

theorem ignoresClosing_task {α : Type} (task : Task α) :
    (task.program (S := S)).IgnoresClosing :=
  task_induction (motive := IgnoresClosing) (fun _ => trivial) (fun _ => id) IgnoresClosing.bind
    ignoresClosing_withSession task

/-- Wherever two runs have asked the same, they were answered the same, unless it was a close. -/
def AgreeButClosing (first second : List (Exchange (Store S))) : Prop :=
  ∀ (index : Nat) (op : StoreOp S) (reply other : op.Reply),
    first[index]? = some ⟨op, reply⟩ → second[index]? = some ⟨op, other⟩ →
      (∀ session, op ≠ .close session) → reply = other

theorem AgreeButClosing.nil : AgreeButClosing ([] : List (Exchange (Store S))) [] :=
  @AnsweredAlike.nil (Store S) AlikeButClosing

theorem AgreeButClosing.cons {first second : List (Exchange (Store S))}
    (exchange : Exchange (Store S)) (later : AgreeButClosing first second) :
    AgreeButClosing (exchange :: first) (exchange :: second) := by
  have alike : AnsweredAlike AlikeButClosing first second := later
  exact alike.cons fun _ => rfl

theorem AgreeButClosing.close {first second : List (Exchange (Store S))} (session : S)
    (closed other : Except Fault Unit) (later : AgreeButClosing first second) :
    AgreeButClosing (⟨.close session, closed⟩ :: first) (⟨.close session, other⟩ :: second) := by
  have alike : AnsweredAlike AlikeButClosing first second := later
  exact alike.cons fun different => absurd rfl (different session)

theorem Program.IgnoresClosing.value_eq {α σ τ : Type} {program : Program (Store S) α}
    (ignores : program.IgnoresClosing) (handler : Handler (Store S) σ) (other : Handler (Store S) τ)
    (state : σ) (start : τ)
    (agree : AgreeButClosing (program.trace handler state) (program.trace other start)) :
    (program.run handler state).value = (program.run other start).value :=
  ignores.indifferent.value_eq handler other state start agree

end

end Provision
