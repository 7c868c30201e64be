import Provision.Orchestration
/-!
Everything the tool can be asked for over a datastore, as one type.
-/

namespace Provision

/-- A task, by what it answers when it succeeds. -/
inductive Task : Type → Type where
  | provision (request : Request) : Task Report
  | verifyLogin (target : String) (credentials : Credentials) : Task Unit
  | inspect (scope : String) (admin : Credentials) (target collection : String) :
      Task DatabaseReport
  | orchestrate (settings : Settings) (command : Command) (stamp : Int64) : Task Outcome

def Task.program {S α : Type} : Task α → Program (Store S) (Except Failure α)
  | .provision request => request.provision
  | .verifyLogin target credentials => Provision.verifyLogin target credentials
  | .inspect scope admin target collection => Provision.inspect scope admin target collection
  | .orchestrate settings command stamp => settings.orchestrate command stamp

end Provision
