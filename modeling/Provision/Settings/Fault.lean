import Provision.Settings.Environment
/-!
What can be wrong with a configuration.

Every message names the variable at fault. The value is quoted only where it is no secret.
-/

namespace Provision

inductive SettingsFault where
  | missing (v : Variable)
  | malformedPortNumber (text : String)
  /-- The first entry of the role list that spells no grant, trimmed. -/
  | malformedGrant (entry : String)
  /-- A marker mode that is no mode, trimmed and lowered. -/
  | unknownMode (word : String)
  /-- Seeding was asked for without a version. -/
  | versionMissing
  | malformedSwitch (v : Variable) (text : String)
deriving DecidableEq

namespace SettingsFault

def message : SettingsFault → String
  | .missing v => "Required environment variable '" ++ v.name ++ "' is not set"
  | .malformedPortNumber text =>
    "Environment variable '" ++ Variable.portNumber.name
      ++ s!"' must be a port number, got: '{text}'"
  | .malformedGrant entry =>
    "Environment variable '" ++ Variable.roles.name
      ++ s!"' has a malformed entry: '{entry}' (expected role or role@database)"
  | .unknownMode word =>
    "Environment variable '" ++ Variable.marker.name
      ++ s!"' must be 'skip' or 'seed', got: '{word}'"
  | .versionMissing =>
    "Marker mode 'seed' requires '" ++ Variable.markerVersion.name ++ "' to be set"
  | .malformedSwitch v text =>
    "Environment variable '" ++ v.name ++ s!"' must be a boolean, got: '{text}'"

def report (fault : SettingsFault) : String :=
  "Configuration error: " ++ fault.message

end SettingsFault

end Provision
