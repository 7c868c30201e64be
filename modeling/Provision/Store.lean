import Provision.Program
/-!
The datastore as its clients see it.

A session is opened with credentials against a scope, answers calls, and is closed. Every reply may
be a fault instead. What a session is depends on the datastore; clients only hand it back.
-/

namespace Provision

inductive Call where
  | userExists (database username : String)
  /-- An existing user is answered with an "already exists" fault. -/
  | createUser (account : Account)
  /-- An existing collection is answered with an "already exists" fault. -/
  | ensureCollection (database collection : String)
  /-- The first document of the collection, if there is one. -/
  | findMarker (database collection : String)
  /-- A marker already stored is answered with an "already exists" fault. -/
  | insertMarker (database collection : String) (marker : Marker)
  | serverVersion
  | listCollections (database : String)
deriving DecidableEq

abbrev Call.Answer : Call → Type
  | .userExists .. => Bool
  | .createUser _ => Unit
  | .ensureCollection .. => Unit
  | .findMarker .. => Option Marker
  | .insertMarker .. => Unit
  | .serverVersion => String
  | .listCollections _ => List String

/-- The interface of one open session, which cannot open or close anything. -/
abbrev Calls : Interface where
  Op := Call
  Reply := fun call => Except Fault call.Answer

inductive StoreOp (S : Type) where
  | openSession (scope : String) (credentials : Credentials)
  | call (session : S) (asked : Call)
  | close (session : S)

abbrev StoreOp.Reply {S : Type} : StoreOp S → Type
  | .openSession .. => Except Fault S
  | .call _ asked => Except Fault asked.Answer
  | .close _ => Except Fault Unit

abbrev Store (S : Type) : Interface where
  Op := StoreOp S
  Reply := StoreOp.Reply

def Program.on {S α : Type} (session : S) (body : Program Calls α) : Program (Store S) α :=
  body.via (J := Store S) fun asked => .ask (I := Store S) (.call session asked)

end Provision
