import Provision.Marker.Document
import Provision.Remote.Command
import Provision.Remote.Error
import Provision.Orchestration
import Provision.Retry
/-!
A database server as a datastore.

Opening a session connects, logs in and pings, so that wrong credentials show before any other
command is sent; it is tried again while the server is unavailable. Each call is one command, and a
close disconnects and cannot fail. What comes back for a command is what the driver makes of the
reply: the result of the command, or an error.
-/

namespace Provision.Remote

structure Client where
  scope : String
  username : String
deriving DecidableEq

inductive WireOp where
  | connect (address appName : String)
  | login (scope : String) (credentials : Credentials)
  | command (client : Client) (sent : ServerCommand)
  | disconnect (client : Client)
  | pause (milliseconds : UInt64)

abbrev WireOp.Reply : WireOp → Type
  | .connect .. => Except DriverError Unit
  | .login .. => Except DriverError Unit
  | .command _ sent => Except DriverError sent.Result
  | .disconnect _ => Unit
  | .pause _ => Unit

abbrev Wire : Interface where
  Op := WireOp
  Reply := WireOp.Reply

def connectOnce (server : ServerSettings) (scope : String) (credentials : Credentials) :
    Program Wire (Except Fault Client) :=
  let client : Client := ⟨scope, credentials.username⟩
  let giveUp (fault : Fault) : Program Wire (Except Fault Client) :=
    .perform (.disconnect client) fun () => .done (.error fault)
  .perform (.connect server.address server.appName) fun
    | .error error => .done (.error error.fault)
    | .ok () => .perform (.login scope credentials) fun
      | .error error => giveUp error.fault
      | .ok () => .perform (.command client (.ping scope)) fun
        | .error error => giveUp error.fault
        | .ok _ =>
          .emit (.sessionOpened server.address scope credentials.username) (.done (.ok client))

def unexpectedReply (sent : ServerCommand) (fault : Bson.FieldFault) : Fault :=
  ⟨.other, "unexpected " ++ sent.name ++ " reply: " ++ fault.message⟩

def commandOf : Call → ServerCommand
  | .userExists database username => .usersInfo database username
  | .createUser account => .createUser account
  | .ensureCollection database collection => .create database collection
  | .findMarker database collection => .find database collection
  | .insertMarker database collection marker => .insert database collection marker.toDocument
  | .serverVersion => .buildInfo
  | .listCollections database => .listCollections database

/-- The answer to a call, read from what its command gave. A document that was found has to be a
marker. -/
def readAnswer : (call : Call) → (commandOf call).Result → Except Fault call.Answer
  | .userExists database username, reply =>
    ((Bson.Document.read reply "users" Bson.asArray).map fun users => !users.isEmpty).mapError
      (unexpectedReply (.usersInfo database username))
  | .createUser _, _ => .ok ()
  | .ensureCollection .., _ => .ok ()
  | .findMarker .., none => .ok none
  | .findMarker .., some document =>
    ((Marker.ofDocument document).map some).mapError MalformedMarker.fault
  | .insertMarker .., _ => .ok ()
  | .serverVersion, reply =>
    (Bson.Document.read reply "version" Bson.asString).mapError (unexpectedReply .buildInfo)
  | .listCollections _, names => .ok names

def answerOf (asked : Call) :
    Except DriverError (commandOf asked).Result → Except Fault asked.Answer
  | .error error => .error error.fault
  | .ok result => readAnswer asked result

def means (server : ServerSettings) : (op : StoreOp Client) → Program Wire op.Reply
  | .openSession scope credentials =>
    retry (connectOnce server scope credentials) (fun ms => .ask (I := Wire) (.pause ms))
      server.attempts server.interval
  | .call client asked => .perform (.command client (commandOf asked)) fun result =>
    .done (answerOf asked result)
  | .close client => .perform (.disconnect client) fun () => .done (.ok ())

def onServer {α : Type} (server : ServerSettings) (program : Program (Store Client) α) :
    Program Wire α :=
  program.via (means server)

end Provision.Remote

namespace Provision.Settings

def execute (settings : Settings) (command : Command) (stamp : Int64) :
    Program Remote.Wire (Except Failure Outcome) :=
  .emit (.commandStarted command settings.server.address settings.target)
    (Remote.onServer settings.server (settings.orchestrate command stamp))

end Provision.Settings
