import Provision.Account
import Provision.Bson
/-!
The commands sent to a server, and what they give.
-/

namespace Provision.Remote

inductive ServerCommand where
  /-- Forces the log-in to happen before anything else is sent. -/
  | ping (scope : String)
  | usersInfo (database username : String)
  | createUser (account : Account)
  | create (database collection : String)
  /-- Asks for the first document of a collection. -/
  | find (database collection : String)
  | insert (database collection : String) (document : Bson.Document)
  | buildInfo
  | listCollections (database : String)

namespace ServerCommand

def name : ServerCommand → String
  | .ping _ => "ping"
  | .usersInfo .. => "usersInfo"
  | .createUser _ => "createUser"
  | .create .. => "create"
  | .find .. => "find"
  | .insert .. => "insert"
  | .buildInfo => "buildInfo"
  | .listCollections _ => "listCollections"

def grantDocument (grant : Grant) : Bson :=
  .document [("role", .string grant.role), ("db", .string grant.database)]

/-- The command as a document, its fields in the order they are sent. -/
def document : ServerCommand → Bson.Document
  | .ping scope => [("ping", .int32 1), ("$db", .string scope)]
  | .usersInfo database username =>
    [("usersInfo", .document [("user", .string username), ("db", .string database)]),
      ("$db", .string database)]
  | .createUser account =>
    [("createUser", .string account.username), ("pwd", .string account.password),
      ("roles", .array (account.grants.map grantDocument)), ("$db", .string account.database)]
  | .create database collection => [("create", .string collection), ("$db", .string database)]
  | .find database collection =>
    [("find", .string collection), ("singleBatch", .boolean true), ("limit", .int64 1),
      ("filter", .document []), ("$db", .string database)]
  | .insert database collection document =>
    [("insert", .string collection), ("ordered", .boolean true), ("$db", .string database),
      ("documents", .array [.document document])]
  | .buildInfo => [("buildInfo", .int32 1), ("$db", .string "admin")]
  | .listCollections database =>
    [("listCollections", .int32 1), ("nameOnly", .boolean true), ("$db", .string database)]

abbrev Result : ServerCommand → Type
  | .ping _ | .usersInfo .. | .createUser _ | .buildInfo => Bson.Document
  | .create .. | .insert .. => Unit
  | .find .. => Option Bson.Document
  | .listCollections _ => List String

end ServerCommand

end Provision.Remote
