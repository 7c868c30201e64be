import Provision.Proofs.Growth
/-!
What a call depends on.

A call looks at one user, at one collection, at the collections of one database or at nothing at
all. Clusters that are the same there answer it alike, and then either both stay as they are or both
carry it out.
-/

namespace Provision.Cluster

/-- The two clusters are the same in what a call looks at. -/
def SameFor (first second : Cluster) : Call → Prop
  | .userExists database username =>
    second.users.find? (database, username) = first.users.find? (database, username)
  | .createUser account => second.users.find? account.key = first.users.find? account.key
  | .ensureCollection database collection
  | .findMarker database collection
  | .insertMarker database collection _ =>
    second.collections.find? (database, collection) = first.collections.find? (database, collection)
  | .serverVersion => True
  | .listCollections database => ∀ name,
    second.collections.find? (database, name) = first.collections.find? (database, name)

/-- A call leaves two clusters as they are, or is carried out on both. -/
inductive MovesAlike (call : Call) (first second : Cluster) : Cluster → Cluster → Prop
  | unchanged : MovesAlike call first second first second
  | written {firstAfter secondAfter : Cluster} (one : Written first call firstAfter)
      (other : Written second call secondAfter) :
      MovesAlike call first second firstAfter secondAfter

variable {first second : Cluster} {call : Call}

theorem MovesAlike.keeps (related : Cluster → Cluster → Prop) {firstAfter secondAfter : Cluster}
    (moves : MovesAlike call first second firstAfter secondAfter) (before : related first second)
    (written : ∀ {firstAfter secondAfter : Cluster}, Written first call firstAfter →
      Written second call secondAfter → related firstAfter secondAfter) :
    related firstAfter secondAfter := by
  cases moves with
  | unchanged => exact before
  | written one other => exact written one other

theorem records_eq_of_find? {database collection : String}
    (same : second.collections.find? (database, collection) =
      first.collections.find? (database, collection)) :
    second.records database collection = first.records database collection :=
  congrArg (Option.getD · []) same

theorem execute_createUser_alike {account : Account}
    (there : second.holds (.user account.key) = first.holds (.user account.key)) :
    (first.execute (.createUser account)).1 = (second.execute (.createUser account)).1 ∧
      MovesAlike (.createUser account) first second (first.execute (.createUser account)).2
        (second.execute (.createUser account)).2 := by
  simp only [Cluster.execute, createUser_eq, there]
  cases known : unknownRole account.grants with
  | some written => exact ⟨rfl, .unchanged⟩
  | none =>
    cases absent : first.holds (.user account.key) with
    | true => exact ⟨rfl, .unchanged⟩
    | false => exact ⟨rfl, .written (.user known absent) (.user known (there.trans absent))⟩

/-- A call that nothing stands against is carried out alike. -/
theorem SameFor.execute (same : SameFor first second call) :
    (first.execute call).1 = (second.execute call).1 ∧
      MovesAlike call first second (first.execute call).2 (second.execute call).2 := by
  cases call with
  | serverVersion => exact ⟨rfl, .unchanged⟩
  | userExists database username =>
    have there : second.hasUser database username = first.hasUser database username :=
      congrArg Option.isSome same
    exact ⟨congrArg Except.ok there.symm, .unchanged⟩
  | findMarker database collection =>
    refine ⟨?_, .unchanged⟩
    simp only [Cluster.execute, documents, records_eq_of_find? same]
  | listCollections database =>
    have names : second.collections.names database = first.collections.names database :=
      Table.names_congr same
    exact ⟨congrArg Except.ok names.symm, .unchanged⟩
  | createUser account => exact execute_createUser_alike (congrArg Option.isSome same)
  | ensureCollection database collection =>
    have there : second.holds (.collection (database, collection)) =
        first.holds (.collection (database, collection)) := congrArg Option.isSome same
    simp only [Cluster.execute, createCollection_eq, there]
    cases absent : first.holds (.collection (database, collection)) with
    | true => exact ⟨rfl, .unchanged⟩
    | false => exact ⟨rfl, .written (.collection absent) (.collection (there.trans absent))⟩
  | insertMarker database collection marker =>
    have there : second.holds (.marker (database, collection)) =
        first.holds (.marker (database, collection)) := by
      simp only [Cluster.holds, records_eq_of_find? same]
    simp only [Cluster.execute, insertMarker_eq, there]
    cases absent : first.holds (.marker (database, collection)) with
    | true => exact ⟨rfl, .unchanged⟩
    | false => exact ⟨rfl, .written (.marker absent) (.marker (there.trans absent))⟩

theorem SameFor.answer (same : SameFor first second call) (faults : second.faults = first.faults)
    (session : Session) :
    (first.answer session call).1 = (second.answer session call).1 ∧
      MovesAlike call first second (first.answer session call).2
        (second.answer session call).2 := by
  unfold Cluster.answer
  rw [faults]
  cases first.faults call.faultPoint with
  | some fault => exact ⟨rfl, .unchanged⟩
  | none =>
    cases session.refusal call with
    | some refusal => exact ⟨rfl, .unchanged⟩
    | none => exact same.execute

end Provision.Cluster
