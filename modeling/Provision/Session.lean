import Provision.Store
/-!
Sessions are held by bracket: a session that was opened is closed exactly once, after the last call
and whatever the calls answered. A close that fails is logged and changes no result.
-/

namespace Provision

/-- Opens a session, runs a body on it and closes it. The fault of a refused login is given back
instead of the body's value. -/
def withSession {S α : Type} (operation : Operation) (scope : String) (credentials : Credentials)
    (body : Program Calls α) : Program (Store S) (Except Fault α) :=
  .perform (.openSession scope credentials) fun
    | .error fault => .done (.error fault)
    | .ok session => (body.on session).bind fun value =>
      .perform (.close session) fun
        | .ok () => .done (.ok value)
        | .error fault => .emit (.closeFailed operation fault) (.done (.ok value))

/-- A refused administrator is a failure of its own; any other fault struck the opening. -/
def adminRefused (scope : String) (fault : Fault) : Failure :=
  match fault.kind with
  | .authenticationFailed | .unauthorized => .authentication scope fault.detail
  | _ => .ofFault "open admin session" fault

end Provision
