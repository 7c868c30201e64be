import Provision.Remote.Client
/-!
What a driver makes of the replies to commands.

A server replies to a command with a document, and a driver takes the reply for what the command
gives or for an error. Programs on the wire see no replies, so any driver can stand between them and
a server. The standard one takes the replies that servers are known to write.
-/

namespace Provision.Remote

structure Driver where
  take : (sent : ServerCommand) → Bson.Document → Except DriverError sent.Result

/-- What comes back for an operation, before a driver has taken it. -/
abbrev WireOp.RawReply : WireOp → Type
  | .connect .. => Except DriverError Unit
  | .login .. => Except DriverError Unit
  | .command .. => Except DriverError Bson.Document
  | .disconnect _ => Unit
  | .pause _ => Unit

abbrev RawWire : Interface where
  Op := WireOp
  Reply := WireOp.RawReply

namespace Driver

/-- Only replies to commands are taken. All else passes through. -/
def pass (driver : Driver) : (op : WireOp) → op.RawReply → op.Reply
  | .connect .., reply => reply
  | .login .., reply => reply
  | .command _ sent, reply => reply.bind (driver.take sent)
  | .disconnect _, reply => reply
  | .pause _, reply => reply

def means (driver : Driver) (op : WireOp) : Program RawWire op.Reply :=
  .perform op fun reply => .done (driver.pass op reply)

def onServer {α : Type} (driver : Driver) (server : ServerSettings)
    (program : Program (Store Client) α) : Program RawWire α :=
  (Remote.onServer server program).via driver.means

def relay {σ : Type} (driver : Driver) (handler : Handler RawWire σ) : Handler Wire σ :=
  fun op state =>
    let (reply, next) := handler op state
    (driver.pass op reply, next)

end Driver

/-! ### The standard driver -/

namespace Reply

/-- The status of a command that went through, in any of the types a server writes it in. -/
def isOne : Bson → Bool
  | .int32 value => value = 1
  | .int64 value => value = 1
  | .double value => value.bits = 0x3FF0000000000000
  | _ => false

def text? (document : Bson.Document) (name : String) : Option String :=
  (document.get? name).bind Bson.asString

/-- A code has 32 bits, though a server may write it with more. -/
def code? (document : Bson.Document) : Option Int32 :=
  match document.get? "code" with
  | some (.int32 code) => some code
  | some (.int64 code) => if code.toInt32.toInt64 = code then some code.toInt32 else none
  | _ => none

def unreadable : DriverError :=
  .invalidResponse "the reply is not of the form that its command has"

def refusal (reply : Bson.Document) : DriverError :=
  match code? reply with
  | none => unreadable
  | some code => .command code ((text? reply "codeName").getD "") ((text? reply "errmsg").getD "")

def writeError? (reply : Bson.Document) : Option DriverError :=
  match reply.get? "writeErrors" with
  | none | some (.array []) => none
  | some (.array (.document error :: _)) => match code? error with
    | none => some unreadable
    | some code => some (.write code (text? error "codeName") ((text? error "errmsg").getD ""))
  | _ => some unreadable

/-- The error of a write that went through but did not spread as it had to. -/
def concernError? (reply : Bson.Document) : Option DriverError :=
  match reply.get? "writeConcernError" with
  | none => none
  | some (.document error) => match code? error with
    | none => some unreadable
    | some code => some <| .writeConcern code ((text? error "codeName").getD "")
        ((text? error "errmsg").getD "")
  | _ => some unreadable

def okUnless : Option DriverError → Except DriverError Unit
  | none => .ok ()
  | some error => .error error

def batch (reply : Bson.Document) : Except DriverError (List Bson.Document) :=
  let cursor := (reply.get? "cursor").bind Bson.asDocument
  let items := (cursor.bind fun fields => fields.get? "firstBatch").bind Bson.asArray
  match items.bind fun items => items.mapM Bson.asDocument with
  | none => .error unreadable
  | some documents => .ok documents

def names (documents : List Bson.Document) : Except DriverError (List String) :=
  match documents.mapM fun document => text? document "name" with
  | none => .error unreadable
  | some names => .ok names

def result : (sent : ServerCommand) → Bson.Document → Except DriverError sent.Result
  | .ping _, reply => .ok reply
  | .usersInfo .., reply => .ok reply
  | .createUser _, reply => .ok reply
  | .buildInfo, reply => .ok reply
  | .create .., reply => okUnless (concernError? reply)
  | .insert .., reply => okUnless ((writeError? reply).or (concernError? reply))
  | .find .., reply => (batch reply).map List.head?
  | .listCollections _, reply => (batch reply).bind names

end Reply

/-- Takes the replies that servers are known to write, and no others. -/
def Driver.standard : Driver where
  take sent reply :=
    if (reply.get? "ok").any Reply.isOne then Reply.result sent reply
    else .error (Reply.refusal reply)

end Provision.Remote
