import Provision.Repeating
import Provision.Store
/-!
A datastore that answers from a script.

Each kind of request has a list of replies, given out in order; the last one repeats. Where no reply
is written, a default stands in: nothing exists, nothing is listed, every write succeeds. All
requests are kept in the order they came.
-/

namespace Provision

/-- Replies in order, of which the last one repeats. -/
abbrev Replies (α : Type) : Type := List (Except Fault α)

structure Script where
  opening : Replies Unit := []
  userExists : Replies Bool := []
  createUser : Replies Unit := []
  ensureCollection : Replies Unit := []
  findMarker : Replies (Option Marker) := []
  insertMarker : Replies Unit := []
  serverVersion : Replies String := []
  listCollections : Replies (List String) := []
  closing : Replies Unit := []

namespace Script

def answer (script : Script) : (call : Call) → Except Fault call.Answer × Script
  | .userExists .. =>
    let (reply, rest) := takeNext (.ok false) script.userExists
    (reply, { script with userExists := rest })
  | .createUser _ =>
    let (reply, rest) := takeNext (.ok ()) script.createUser
    (reply, { script with createUser := rest })
  | .ensureCollection .. =>
    let (reply, rest) := takeNext (.ok ()) script.ensureCollection
    (reply, { script with ensureCollection := rest })
  | .findMarker .. =>
    let (reply, rest) := takeNext (.ok none) script.findMarker
    (reply, { script with findMarker := rest })
  | .insertMarker .. =>
    let (reply, rest) := takeNext (.ok ()) script.insertMarker
    (reply, { script with insertMarker := rest })
  | .serverVersion =>
    let (reply, rest) := takeNext (.ok "scripted") script.serverVersion
    (reply, { script with serverVersion := rest })
  | .listCollections _ =>
    let (reply, rest) := takeNext (.ok []) script.listCollections
    (reply, { script with listCollections := rest })

end Script

/-- A script being played: what is left of it, and the requests so far, the latest first. -/
structure Playback where
  script : Script
  requests : List (StoreOp Unit) := []

namespace Playback

def handler : Handler (Store Unit) Playback
  | .openSession scope credentials, ⟨script, requests⟩ =>
    let (reply, rest) := takeNext (.ok ()) script.opening
    (reply, ⟨{ script with opening := rest }, .openSession scope credentials :: requests⟩)
  | .call session asked, ⟨script, requests⟩ =>
    let (reply, rest) := script.answer asked
    (reply, ⟨rest, .call session asked :: requests⟩)
  | .close session, ⟨script, requests⟩ =>
    let (reply, rest) := takeNext (.ok ()) script.closing
    (reply, ⟨{ script with closing := rest }, .close session :: requests⟩)

end Playback

end Provision
