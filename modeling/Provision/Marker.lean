import Provision.Text.Record
/-!
Version markers: the record of the schema version that a database was set up with.
-/

namespace Provision

structure Marker where
  version : String
  /-- POSIX time in milliseconds. -/
  stamp : Int64
  migrated : Bool
deriving DecidableEq

namespace Marker

/-- The identifier every seeded marker is stored under. A collection holds an identifier at most
once, so racing seeders cannot leave two markers. -/
def identifier : String := "bootstrap-marker"

def fresh (version : String) (stamp : Int64) : Marker :=
  ⟨version, stamp, false⟩

def shown (marker : Marker) : String :=
  Text.record "VersionMarker"
    [("version", Text.quoted marker.version), ("at", toString marker.stamp.toInt),
      ("migrated", Text.truth marker.migrated)]

end Marker

inductive MarkerPlan where
  | skip
  | seed (collection version : String)
deriving DecidableEq

def MarkerPlan.shown : MarkerPlan → String
  | .skip => "Skip"
  | .seed collection version =>
    Text.record "SeedMarker"
      [("collection", Text.quoted collection), ("version", Text.quoted version)]

end Provision
