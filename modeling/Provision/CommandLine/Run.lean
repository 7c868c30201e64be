import Provision.CommandLine.Arguments
import Provision.Remote.Client
/-!
From arguments and environment to a command and its exit status.

The arguments are judged first, then the environment, then a requested change of the marker plan;
only if all three stand is the server contacted. The status is 2 for a refused line or change, 1 for
a refused environment or a failed command, and 0 otherwise.
-/

namespace Provision.CommandLine

inductive Decision where
  | help
  | refuseLine
  | refuseEnvironment (fault : SettingsFault)
  | refuseOverride (fault : SettingsFault)
  | carryOut (settings : Settings) (command : Command)
deriving DecidableEq

/-- Replaces the marker plan if an option asks for it. A version given alone means seeding. -/
def overridden (arguments : Arguments) (settings : Settings) : Except SettingsFault Settings :=
  if arguments.marker.isNone && arguments.markerVersion.isNone then .ok settings
  else settings.overrideMarker (arguments.marker.getD .seed).word arguments.markerVersion

def withoutVerification (arguments : Arguments) (settings : Settings) : Settings :=
  if arguments.noVerify then { settings with verifyLogin := false } else settings

def weigh (parsed : Parsed) (env : Environment) : Decision :=
  match parsed with
  | .help => .help
  | .rejected => .refuseLine
  | .accepted arguments => match Settings.load env with
    | .error fault => .refuseEnvironment fault
    | .ok settings => match overridden arguments settings with
      | .error fault => .refuseOverride fault
      | .ok planned =>
        .carryOut (withoutVerification arguments planned) (arguments.command.getD .up)

def judge (line : List String) (env : Environment) : Decision :=
  weigh (read line) env

/-- How a command ended: its exit status, the lines it printed, and a last line of complaint that
follows the log. -/
structure Ending where
  status : Nat
  output : List String := []
  complaint : Option String := none
deriving DecidableEq

def complain (fault : SettingsFault) : String :=
  "Configuration error: " ++ fault.report

def statusLines (target : String) (report : DatabaseReport) : List String :=
  ["server version: " ++ report.serverVersion,
    "database:       " ++ target,
    "collections:    " ++ ", ".intercalate report.collections,
    match report.marker with
    | none => "marker:         none"
    | some marker => "marker:         version=" ++ marker.version
        ++ " at=" ++ toString marker.stamp.toInt ++ " migrated=" ++ Text.truth marker.migrated]

def finish (settings : Settings) :
    Except Failure Outcome → Program Remote.Wire Ending
  | .error failure => .done ⟨1, [], some (
      s!"Bootstrap failed (target_db={settings.target} username={settings.account.username}): "
        ++ failure.message)⟩
  | .ok (.provisioned report) =>
    .emit (.commandFinished settings.target settings.account.username report) (.done ⟨0, [], none⟩)
  | .ok (.status report) => .done ⟨0, statusLines settings.target report, none⟩

def run (decision : Decision) (stamp : Int64) : Program Remote.Wire Ending :=
  match decision with
  | .help => .done ⟨0, [], none⟩
  | .refuseLine => .done ⟨2, [], none⟩
  | .refuseEnvironment fault => .done ⟨1, [], some (complain fault)⟩
  | .refuseOverride fault => .done ⟨2, [], some (complain fault)⟩
  | .carryOut settings command => (settings.execute command stamp).bind (finish settings)

end Provision.CommandLine
