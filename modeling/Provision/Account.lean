import Provision.Grant
/-!
Who logs in, and the account that a provisioned database gets.

Passwords are never shown: every text of a value that holds one conceals it.
-/

namespace Provision

structure Credentials where
  username : String
  password : String
deriving DecidableEq

structure Account where
  username : String
  password : String
  database : String
  grants : List Grant
deriving DecidableEq

def Credentials.shown (credentials : Credentials) : String :=
  Text.record "Credentials"
    [("username", Text.quoted credentials.username), ("password", Text.concealed)]

namespace Account

def credentials (account : Account) : Credentials :=
  ⟨account.username, account.password⟩

def shown (account : Account) : String :=
  Text.record "UserSpec"
    [("username", Text.quoted account.username), ("password", Text.concealed),
      ("database", Text.quoted account.database),
      ("roles", Text.listing (account.grants.map Grant.shown))]

end Account

end Provision
