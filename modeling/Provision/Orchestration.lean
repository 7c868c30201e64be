import Provision.Inspection
import Provision.Provisioning
import Provision.Settings
/-!
Carrying out a command with given settings, over any datastore.
-/

namespace Provision

namespace Settings

def request (settings : Settings) (stamp : Int64) : Request where
  scope := settings.server.adminDatabase
  admin := settings.server.admin
  target := settings.target
  account := settings.account
  plan := settings.plan
  stamp := stamp

def checkLogin {S : Type} (settings : Settings) : Program (Store S) (Except Failure Unit) :=
  if settings.verifyLogin then Provision.verifyLogin settings.target settings.account.credentials
  else .emit .loginNotVerified (.done (.ok ()))

def up {S : Type} (settings : Settings) (stamp : Int64) :
    Program (Store S) (Except Failure Outcome) :=
  (settings.request stamp).provision.bind fun
    | .error failure => .done (.error failure)
    | .ok report => settings.checkLogin.bind fun
      | .error failure => .done (.error failure)
      | .ok () => .done (.ok (.provisioned report))

def status {S : Type} (settings : Settings) : Program (Store S) (Except Failure Outcome) :=
  (inspect settings.server.adminDatabase settings.server.admin settings.target
    settings.markerCollection).bind fun
    | .error failure => .done (.error failure)
    | .ok report => .emit (.statusReported settings.target report) (.done (.ok (.status report)))

def orchestrate {S : Type} (settings : Settings) (command : Command) (stamp : Int64) :
    Program (Store S) (Except Failure Outcome) :=
  match command with
  | .up => settings.up stamp
  | .status => settings.status

end Settings

end Provision
