import Provision.Proofs.CallProtocol
/-!
What surrounds the writes of a provisioning run.

The creation of a user comes right after a look-up that found nobody, and the insertion of a marker
after a look-up that found no document and the creation of its collection. The answer to a write
settles how the run goes on.
-/

namespace Provision

/-- How a step ends with the answer to its write. -/
def writeResult {α : Type} (done already : α) (failed : Fault → Failure) :
    Except Fault Unit → Except Failure α
  | .ok () => .ok done
  | .error fault => if fault.isAlreadyExists then .ok already else .error (failed fault)

section

variable {α : Type} (done already : α) (failed : Fault → Failure) {fault : Fault}

theorem writeResult_of_already (tells : fault.isAlreadyExists = true) :
    writeResult done already failed (.error fault) = .ok already :=
  if_pos tells

theorem writeResult_of_other (other : fault.isAlreadyExists = false) :
    writeResult done already failed (.error fault) = .error (failed fault) := by
  simp only [writeResult, other, Bool.false_eq_true, ↓reduceIte]

end

def Account.creationResult (account : Account) : Except Fault Unit → Except Failure UserOutcome :=
  writeResult .created .alreadyPresent fun fault =>
    .grant account.username account.database fault.message

def seedingResult (database collection : String) :
    Except Fault Unit → Except Failure MarkerOutcome :=
  writeResult .seeded .alreadyPresent fun fault => .marker database collection fault.message

/-- A list can be split in one way only around a member that is the only one of its kind. -/
theorem split_unique {α : Type} (kind : α → Prop) (before after : List α) {x y : α}
    {earlier later : List α}
    (split : before ++ y :: after = earlier ++ x :: later) (isKind : kind x)
    (others : ∀ z ∈ before ++ after, ¬kind z) : earlier = before ∧ x = y ∧ later = after := by
  induction before generalizing earlier with
  | nil =>
    cases earlier with
    | nil =>
      cases split
      exact ⟨rfl, rfl, rfl⟩
    | cons first rest =>
      obtain ⟨-, rfl⟩ := List.cons.inj split
      exact absurd isKind (others x (by simp))
  | cons first rest ih =>
    cases earlier with
    | nil =>
      obtain ⟨rfl, -⟩ := List.cons.inj split
      exact absurd isKind (others first (by simp))
    | cons other more =>
      obtain ⟨rfl, same⟩ := List.cons.inj split
      obtain ⟨rfl, rfl, rfl⟩ := ih same fun z member => others z (.tail _ member)
      exact ⟨rfl, rfl, rfl⟩

section

variable {request : Request} {calls earlier later : List (Exchange Calls)}

theorem UserDialogue.around_creation {account other : Account} {answer : Except Fault Unit}
    {result : Except Failure UserOutcome} (dialogue : UserDialogue account calls result)
    (split : calls = earlier ++ ⟨.createUser other, answer⟩ :: later) :
    other = account ∧
      earlier = [⟨.userExists account.database account.username, .ok false⟩] ∧ later = [] ∧
      result = account.creationResult answer := by
  have around (made : Except Fault Unit)
      (two : calls = [⟨.userExists account.database account.username, .ok false⟩,
        ⟨.createUser account, made⟩]) :
      other = account ∧
        earlier = [⟨.userExists account.database account.username, .ok false⟩] ∧ later = [] ∧
        answer = made := by
    obtain ⟨rfl, same, rfl⟩ := split_unique
      (fun exchange => exchange.op ≠ .userExists account.database account.username) [_] []
        (two.symm.trans split) nofun (by simp)
    cases same
    exact ⟨rfl, rfl, rfl, rfl⟩
  cases dialogue with
  | unseen | present =>
    obtain ⟨-, same, -⟩ := split_unique (fun _ => True) [] [] split trivial (by simp)
    cases same
  | created =>
    obtain ⟨rfl, look, last, rfl⟩ := around (.ok ()) rfl
    exact ⟨rfl, look, last, rfl⟩
  | meanwhile fault already =>
    obtain ⟨rfl, look, last, rfl⟩ := around (.error fault) rfl
    exact ⟨rfl, look, last, by rw [Account.creationResult, writeResult_of_already _ _ _ already]⟩
  | refused fault other =>
    obtain ⟨rfl, look, last, rfl⟩ := around (.error fault) rfl
    exact ⟨rfl, look, last, by rw [Account.creationResult, writeResult_of_other _ _ _ other]⟩

theorem MarkerDialogue.around_insertion {database collection version other name : String}
    {stamp : Int64} {marker : Marker} {answer : Except Fault Unit}
    {result : Except Failure MarkerOutcome}
    (dialogue : MarkerDialogue database collection version stamp calls result)
    (split : calls = earlier ++ ⟨.insertMarker other name marker, answer⟩ :: later) :
    other = database ∧ name = collection ∧ marker = .fresh version stamp ∧ later = [] ∧
      result = seedingResult database collection answer ∧
      ∃ reply : Except Fault Unit,
        (∀ fault, reply = .error fault → fault.isAlreadyExists = true) ∧
        earlier = [⟨.findMarker database collection, .ok none⟩,
          ⟨.ensureCollection database collection, reply⟩] := by
  have inserting : (⟨.insertMarker other name marker, answer⟩ : Exchange Calls) ∈ calls := by
    simp [split]
  cases dialogue with
  | nameless | versionless | unseen | present | unensured => simp at inserting
  | @ensured _ _ reply tolerated rest _ seeding =>
    have around (made : Except Fault Unit)
        (one : rest = [⟨.insertMarker database collection (.fresh version stamp), made⟩]) :
        other = database ∧ name = collection ∧ marker = .fresh version stamp ∧ later = [] ∧
          answer = made ∧ earlier = [⟨.findMarker database collection, .ok none⟩,
            ⟨.ensureCollection database collection, reply⟩] := by
      rw [one] at split
      obtain ⟨rfl, same, rfl⟩ := split_unique
        (fun exchange => ∃ database name marker, exchange.op = .insertMarker database name marker)
          [_, _] [] split ⟨_, _, _, rfl⟩ (by simp)
      cases same
      exact ⟨rfl, rfl, rfl, rfl, rfl, rfl⟩
    cases seeding with
    | seeded =>
      obtain ⟨rfl, rfl, rfl, last, rfl, before⟩ := around (.ok ()) rfl
      exact ⟨rfl, rfl, rfl, last, rfl, reply, tolerated, before⟩
    | meanwhile fault already =>
      obtain ⟨rfl, rfl, rfl, last, rfl, before⟩ := around (.error fault) rfl
      refine ⟨rfl, rfl, rfl, last, ?_, reply, tolerated, before⟩
      rw [seedingResult, writeResult_of_already _ _ _ already]
    | refused fault other =>
      obtain ⟨rfl, rfl, rfl, last, rfl, before⟩ := around (.error fault) rfl
      refine ⟨rfl, rfl, rfl, last, ?_, reply, tolerated, before⟩
      rw [seedingResult, writeResult_of_other _ _ _ other]

theorem split_append {α : Type} {first last earlier later : List α} {x : α}
    (split : first ++ last = earlier ++ x :: later) :
    (∃ rest, first = earlier ++ x :: rest ∧ later = rest ++ last) ∨
      ∃ rest, earlier = first ++ rest ∧ last = rest ++ x :: later := by
  rcases List.append_eq_append_iff.1 split with ⟨rest, before, after⟩ | ⟨rest, before, after⟩
  · exact .inr ⟨rest, before, after⟩
  · cases rest with
    | nil => exact .inr ⟨[], by simpa using before.symm, after.symm⟩
    | cons y rest =>
      obtain ⟨rfl, rest'⟩ := List.cons.inj after
      exact .inl ⟨rest, before, rest'⟩

/-- The creation of a user is the first call after a look-up that found nobody. If it fails with
anything but "already exists", it is the last call of all. -/
theorem RunDialogue.around_creation {S : Type} {opening : Except Fault S} {other : Account}
    {answer : Except Fault Unit} {result : Except Failure Report}
    (dialogue : RunDialogue request opening calls result)
    (split : calls = earlier ++ ⟨.createUser other, answer⟩ :: later) :
    other = request.account ∧
      earlier = [⟨.userExists request.account.database request.account.username, .ok false⟩] ∧
      match request.account.creationResult answer with
      | .error failure => later = [] ∧ result = .error failure
      | .ok outcome => ∃ ending, PlanDialogue request later ending ∧
          result = ending.map fun marker => ⟨outcome, marker⟩ := by
  have creating : (⟨.createUser other, answer⟩ : Exchange Calls) ∈ calls := by simp [split]
  cases dialogue with
  | unopened | rejected => cases creating
  | userless session accepted user =>
    obtain ⟨rfl, look, last, failed⟩ := user.around_creation split
    rw [← failed]
    exact ⟨rfl, look, last, rfl⟩
  | @planned session accepted first last outcome ending user plan =>
    rcases split_append split with ⟨rest, before, after⟩ | ⟨rest, before, after⟩
    · obtain ⟨rfl, look, rfl, ended⟩ := user.around_creation before
      rw [← ended, after]
      exact ⟨rfl, look, _, plan, rfl⟩
    · have planned : (⟨.createUser other, answer⟩ : Exchange Calls) ∈ last := by simp [after]
      obtain ⟨_, _, -, about⟩ := plan.call_of_asked (.of_mem planned)
      cases about

/-- The insertion of a marker is the last call of a run, and comes after a look-up that found no
document and the creation of the collection, which succeeded or found it there. -/
theorem RunDialogue.around_insertion {S : Type} {opening : Except Fault S}
    {database collection : String} {marker : Marker} {answer : Except Fault Unit}
    {result : Except Failure Report} (dialogue : RunDialogue request opening calls result)
    (split : calls = earlier ++ ⟨.insertMarker database collection marker, answer⟩ :: later) :
    database = request.target ∧
      (∃ version, request.plan = .seed collection version ∧
        marker = .fresh version request.stamp) ∧
      later = [] ∧
      (∃ user, result =
        (seedingResult database collection answer).map fun marker => ⟨user, marker⟩) ∧
      ∃ first reply, (∀ fault, reply = .error fault → fault.isAlreadyExists = true) ∧
        earlier = first ++ [⟨.findMarker database collection, .ok none⟩,
          ⟨.ensureCollection database collection, reply⟩] := by
  have inserting :
      (⟨.insertMarker database collection marker, answer⟩ : Exchange Calls) ∈ calls := by
    simp [split]
  cases dialogue with
  | unopened | rejected => cases inserting
  | userless session accepted user => cases user.call_of_mem inserting
  | @planned session accepted first last outcome result user plan =>
    rcases split_append split with ⟨rest, before, after⟩ | ⟨rest, before, after⟩
    · cases user.call_of_mem (before ▸ List.mem_append_right _ (.head _))
    · cases plan with
      | skipped => simp at after
      | seeding plan dialogue =>
        obtain ⟨rfl, rfl, rfl, last, ended, reply, tolerated, ensured⟩ :=
          dialogue.around_insertion after
        refine ⟨rfl, ⟨_, plan, rfl⟩, last, ⟨outcome, by rw [ended]⟩, first, reply, tolerated, ?_⟩
        rw [before, ensured]

theorem RunDialogue.unseen {S : Type} {opening : Except Fault S} {database username : String}
    {fault : Fault} {result : Except Failure Report}
    (dialogue : RunDialogue request opening calls result)
    (looked : ⟨.userExists database username, .error fault⟩ ∈ calls) :
    calls = [⟨.userExists database username, .error fault⟩] ∧
      result =
        .error (.grant request.account.username request.account.database fault.message) := by
  cases dialogue with
  | unopened | rejected => cases looked
  | userless session accepted user =>
    cases user with
    | unseen =>
      cases List.mem_singleton.1 looked
      exact ⟨rfl, rfl⟩
    | refused => rcases List.mem_pair.1 looked with same | same <;> cases same
  | planned session accepted user plan =>
    rcases List.mem_append.1 looked with early | late
    · cases user with
      | present => cases List.mem_singleton.1 early
      | created | meanwhile => rcases List.mem_pair.1 early with same | same <;> cases same
    · obtain ⟨_, _, -, about⟩ := plan.call_of_asked (.of_mem late)
      cases about

end

/-- Whatever the run reports, it reports this of its user: only its marker can still fail. -/
def Request.PastUser (request : Request) (user : UserOutcome) : Except Failure Report → Prop
  | .ok report => report.user = user
  | .error failure => ∃ collection message, failure = .marker request.target collection message

theorem PlanDialogue.pastUser {request : Request} {calls : List (Exchange Calls)}
    {ending : Except Failure MarkerOutcome} (plan : PlanDialogue request calls ending)
    (user : UserOutcome) : request.PastUser user (ending.map fun marker => ⟨user, marker⟩) := by
  cases plan with
  | skipped => exact rfl
  | seeding plan dialogue =>
    cases ending with
    | ok marker => exact rfl
    | error failure =>
      obtain ⟨⟨message, rfl⟩, -⟩ := dialogue.failed
      exact ⟨_, message, rfl⟩

end Provision
