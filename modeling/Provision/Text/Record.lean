import Provision.Text.Quoted
/-!
Diagnostic texts of compound values: records, lists and optional values.

A record shows its name and each field as a name and a shown value; callers choose what a field
shows, so a secret field shows a fixed text.
-/

namespace Provision.Text

def record (name : String) (fields : List (String × String)) : String :=
  name ++ " \x7b " ++ ", ".intercalate (fields.map fun (label, shown) => label ++ ": " ++ shown)
    ++ " \x7d"

def listing (shown : List String) : String :=
  "[" ++ ", ".intercalate shown ++ "]"

def applied (name shown : String) : String :=
  name ++ "(" ++ shown ++ ")"

def optional (shown : Option String) : String :=
  match shown with
  | none => "None"
  | some inner => applied "Some" inner

def truth (value : Bool) : String :=
  if value then "true" else "false"

/-- What stands for a password wherever a value that holds one is shown. -/
def concealed : String := quoted "***"

end Provision.Text
