import Provision.Proofs.Decoding
import Provision.Remote.Driver
/-!
The replies that servers are known to write, and what a driver is documented to make of them.

A reply refuses a command, refuses the one document of an insertion, acknowledges a write or lists
documents. Nothing is said of other replies, which a driver may take as it likes, except that the
result of a look-up of users is the reply itself.
-/

namespace Provision.Remote

namespace Reply

/-- The status of a command that did not go through, in any of the types a server writes it in. -/
def isZero : Bson → Bool
  | .int32 value => value = 0
  | .int64 value => value = 0
  | .double value => value.bits = 0 || value.bits = 0x8000000000000000
  | _ => false

def Succeeds (reply : Bson.Document) : Prop :=
  ∃ status, reply.get? "ok" = some status ∧ isOne status = true

structure Refuses (reply : Bson.Document) (code : Int32) (codeName message : String) : Prop where
  fails : ∃ status, reply.get? "ok" = some status ∧ isZero status = true
  code : reply.get? "code" = some (.int32 code)
  codeName : reply.get? "codeName" = some (.string codeName)
  message : reply.get? "errmsg" = some (.string message)

structure RefusesDocument (reply : Bson.Document) (code : Int32) (message : String) : Prop where
  succeeds : Succeeds reply
  count : reply.get? "n" = some (.int32 0)
  listed : ∃ error : Bson.Document, reply.get? "writeErrors" = some (.array [.document error]) ∧
    error.get? "index" = some (.int32 0) ∧ error.get? "code" = some (.int32 code) ∧
    error.get? "errmsg" = some (.string message)

structure Acknowledges (reply : Bson.Document) : Prop where
  succeeds : Succeeds reply
  unlisted : reply.get? "writeErrors" = none
  spread : reply.get? "writeConcernError" = none

/-- The documents of a collection come in one batch, with a cursor that is at its end. -/
structure Lists (reply : Bson.Document) (collection : String)
    (documents : List Bson.Document) : Prop where
  succeeds : Succeeds reply
  cursor : ∃ cursor : Bson.Document, reply.get? "cursor" = some (.document cursor) ∧
    cursor.get? "id" = some (.int64 0) ∧ cursor.get? "ns" = some (.string collection) ∧
    cursor.get? "firstBatch" = some (.array (documents.map .document))

theorem isOne_of_isZero {status : Bson} (zero : isZero status = true) : isOne status = false := by
  cases status with
  | int32 value =>
    obtain rfl : value = 0 := by simpa [isZero] using zero
    rfl
  | int64 value =>
    obtain rfl : value = 0 := by simpa [isZero] using zero
    rfl
  | double value =>
    have bits : value.bits = 0 ∨ value.bits = 0x8000000000000000 := by simpa [isZero] using zero
    apply decide_eq_false
    rcases bits with same | same
    · rw [same]
      decide
    · rw [same]
      decide
  | _ => cases zero

end Reply

/-- What drivers are documented to do about the replies that servers are known to write. -/
structure Driver.Documented (driver : Driver) : Prop where
  looked : ∀ database username reply result,
    driver.take (.usersInfo database username) reply = .ok result → result = reply
  seen : ∀ database username reply, Reply.Succeeds reply →
    driver.take (.usersInfo database username) reply = .ok reply
  created : ∀ account reply, Reply.Succeeds reply →
    driver.take (.createUser account) reply = .ok reply
  ensured : ∀ database collection reply, Reply.Acknowledges reply →
    driver.take (.create database collection) reply = .ok ()
  found : ∀ database collection reply documents,
    Reply.Lists reply (database ++ "." ++ collection) documents →
      driver.take (.find database collection) reply = .ok documents.head?
  inserted : ∀ database collection document reply, Reply.Acknowledges reply →
    reply.get? "n" = some (.int32 1) →
      driver.take (.insert database collection document) reply = .ok ()
  refused : ∀ sent reply code codeName message, Reply.Refuses reply code codeName message →
    driver.take sent reply = .error (.command code codeName message)
  unwritten : ∀ database collection document reply code message,
    Reply.RefusesDocument reply code message → ∃ codeName,
      driver.take (.insert database collection document) reply =
        .error (.write code codeName message)

namespace Reply

variable {reply : Bson.Document} {sent : ServerCommand} {code : Int32}

theorem Succeeds.taken (succeeds : Succeeds reply) :
    Driver.standard.take sent reply = result sent reply := by
  obtain ⟨status, given, one⟩ := succeeds
  simp only [Driver.standard, given, Option.any_some, one, ↓reduceIte]

theorem Refuses.taken {codeName message : String} (refuses : Refuses reply code codeName message) :
    Driver.standard.take sent reply = .error (.command code codeName message) := by
  obtain ⟨status, given, zero⟩ := refuses.fails
  have fails : isOne status = false := isOne_of_isZero zero
  simp only [Driver.standard, given, Option.any_some, fails, Bool.false_eq_true, ↓reduceIte]
  simp only [refusal, code?, text?, refuses.code, refuses.codeName, refuses.message,
    Option.bind_some, Bson.asString, Option.getD_some]

theorem writeError?_of_refused {message : String} (refuses : RefusesDocument reply code message) :
    ∃ codeName, writeError? reply = some (.write code codeName message) := by
  obtain ⟨error, listed, -, coded, told⟩ := refuses.listed
  refine ⟨text? error "codeName", ?_⟩
  simp only [writeError?, listed, code?, coded, text?, told, Option.bind_some, Bson.asString,
    Option.getD_some]

theorem mapM_asDocument (documents : List Bson.Document) :
    (documents.map Bson.document).mapM Bson.asDocument = some documents := by
  induction documents with
  | nil => rfl
  | cons document rest ih => simp [List.mapM_cons, ih, Bson.asDocument]

theorem Lists.batch {collection : String} {documents : List Bson.Document}
    (lists : Lists reply collection documents) : batch reply = .ok documents := by
  obtain ⟨cursor, given, -, -, items⟩ := lists.cursor
  simp only [Reply.batch, given, Option.bind_some, Bson.asDocument, items, Bson.asArray,
    mapM_asDocument]

end Reply

/-- The standard driver is one of those. -/
theorem Driver.standard_documented : standard.Documented where
  looked := by
    intro database username reply result taken
    by_cases one : (reply.get? "ok").any Reply.isOne = true
    · simp only [standard, one, ↓reduceIte] at taken
      exact (Except.ok.inj taken).symm
    · simp only [standard, one] at taken
      cases taken
  seen := fun _ _ _ succeeds => succeeds.taken
  created := fun _ _ succeeds => succeeds.taken
  ensured := by
    intro database collection reply acknowledges
    rw [acknowledges.succeeds.taken]
    simp only [Reply.result, Reply.concernError?, acknowledges.spread, Reply.okUnless]
  found := by
    intro database collection reply documents lists
    rw [lists.succeeds.taken]
    simp only [Reply.result, lists.batch, Except.map]
  inserted := by
    intro database collection document reply acknowledges counted
    rw [acknowledges.succeeds.taken]
    simp only [Reply.result, Reply.writeError?, Reply.concernError?, acknowledges.unlisted,
      acknowledges.spread, Option.or_none, Reply.okUnless]
  refused := fun _ _ _ _ _ refuses => refuses.taken
  unwritten := by
    intro database collection document reply code message refuses
    obtain ⟨codeName, listed⟩ := Reply.writeError?_of_refused refuses
    refine ⟨codeName, ?_⟩
    rw [refuses.succeeds.taken]
    simp only [Reply.result, listed, Option.some_or, Reply.okUnless]

end Provision.Remote
