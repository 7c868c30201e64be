import Provision.Session
import Provision.Text.Order
/-!
Looking without writing: checking that an account can log in, and reporting what a database holds.
-/

namespace Provision

def verifyLogin {S : Type} (target : String) (credentials : Credentials) :
    Program (Store S) (Except Failure Unit) :=
  (withSession .verifyLogin target credentials (.done ())).bind fun
    | .error fault => .done (.error (.verification credentials.username target fault.message))
    | .ok () => .emit (.loginVerified target credentials.username) (.done (.ok ()))

/-- Reads the marker of a collection, if the collection is listed. -/
def readMarker (database collection : String) (listed : List String) :
    Program Calls (Except Failure (Option Marker)) :=
  if collection ∈ listed then
    .perform (.findMarker database collection) fun
      | .error fault => .done (.error (.ofFault "marker lookup" fault))
      | .ok marker => .done (.ok marker)
  else .done (.ok none)

def survey (database collection : String) : Program Calls (Except Failure DatabaseReport) :=
  .perform .serverVersion fun
    | .error fault => .done (.error (.ofFault "server version lookup" fault))
    | .ok version => .perform (.listCollections database) fun
      | .error fault => .done (.error (.ofFault "list collections" fault))
      | .ok names =>
        let listed := Text.sorted names
        (readMarker database collection listed).bind fun
          | .error failure => .done (.error failure)
          | .ok marker => .done (.ok ⟨version, listed, marker⟩)

/-- Inspects a database as an administrator. Without a database to look at no session is opened. -/
def inspect {S : Type} (scope : String) (admin : Credentials) (target collection : String) :
    Program (Store S) (Except Failure DatabaseReport) :=
  if target.isEmpty then .done (.error (.input "target database name must not be empty"))
  else (withSession .inspect scope admin (survey target collection)).bind fun
    | .error fault => .done (.error (adminRefused scope fault))
    | .ok result => .done result

end Provision
