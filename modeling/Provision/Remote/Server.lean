import Provision.Remote.Driver
import Provision.Repeating
/-!
A server that answers from a script and keeps what it saw.

It may be unreachable, or its address may be one that no client accepts; then it sees nothing. It
lets in who is on its list. Each command has a list of replies, the last of which repeats, and a
default that reports success and nothing found.
-/

namespace Provision.Remote

inductive Reaction where
  | reply (document : Bson.Document)
  /-- Drops the connection. -/
  | hangUp

inductive Sighting where
  | connection (appName : String)
  | login (scope username : String)
  | command (sent : ServerCommand)

inductive Route where
  | reachable
  | unreachable
  /-- The address is refused before anything is sent. -/
  | badAddress
deriving DecidableEq

structure Server where
  route : Route := .reachable
  logins : List (String × Credentials) := []
  /-- The reactions that are left for each command name. -/
  script : List (String × List Reaction) := []
  /-- The latest first. -/
  seen : List Sighting := []

namespace Server

def defaultReply : ServerCommand → Bson.Document
  | .usersInfo .. => [("users", .array []), ("ok", .int32 1)]
  | .find .. | .listCollections _ =>
    [("cursor", .document [("firstBatch", .array [])]), ("ok", .int32 1)]
  | .buildInfo => [("version", .string "7.0.5"), ("ok", .int32 1)]
  | _ => [("ok", .int32 1)]

def react (server : Server) (sent : ServerCommand) : Reaction × Server :=
  let listed := (server.script.lookup sent.name).getD []
  let (reaction, rest) := takeNext (.reply (defaultReply sent)) listed
  let others := server.script.filter fun entry => decide (entry.1 ≠ sent.name)
  (reaction, { server with script := (sent.name, rest) :: others })

def note (server : Server) (sighting : Sighting) : Server :=
  { server with seen := sighting :: server.seen }

/-- Why no connection is made to an address, if none is. -/
def refusal (server : Server) (address : String) : Option DriverError :=
  if server.route = .badAddress || !Address.isReadable address then
    some (.invalidArgument "the address cannot be read")
  else if server.route = .unreachable then some (.serverSelection "no server is reachable")
  else none

def rawHandler : Handler RawWire Server
  | .connect address appName, server => match server.refusal address with
    | some error => (.error error, server)
    | none => (.ok (), server.note (.connection appName))
  | .login scope credentials, server =>
    let noted := server.note (.login scope credentials.username)
    if (scope, credentials) ∈ server.logins then (.ok (), noted)
    else (.error (.authentication "SCRAM failure: Authentication failed."), noted)
  | .command _ sent, server =>
    match (server.note (.command sent)).react sent with
    | (.reply document, next) => (.ok document, next)
    | (.hangUp, next) => (.error (.io "connection closed"), next)
  | .disconnect _, server => ((), server)
  | .pause _, server => ((), server)

def handler : Handler Wire Server :=
  Driver.standard.relay rawHandler

end Server

end Provision.Remote
