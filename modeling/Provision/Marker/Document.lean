import Provision.Bson
import Provision.Fault
import Provision.Marker
/-!
Markers as documents.

A marker is written with its identifier, version, time and flag, in this order. Reading asks for
the last three only, in any order and among any others; the time may be any number or a date, since
markers are also written by hand.
-/

namespace Provision

/-- The first field that keeps a document from being a marker. -/
inductive MalformedMarker where
  | version (fault : Bson.FieldFault)
  | migrated (fault : Bson.FieldFault)
  | stampType (name : String)
  | stampMissing
deriving DecidableEq

def MalformedMarker.message : MalformedMarker → String
  | .version fault => "version: " ++ fault.message
  | .migrated fault => "migrated: " ++ fault.message
  | .stampType name => "at has type " ++ name
  | .stampMissing => "at is missing"

def MalformedMarker.fault (malformed : MalformedMarker) : Fault :=
  ⟨.other, "malformed marker document: " ++ malformed.message⟩

namespace Marker

def toDocument (marker : Marker) : Bson.Document :=
  [("_id", .string identifier), ("version", .string marker.version), ("at", .int64 marker.stamp),
    ("migrated", .boolean marker.migrated)]

def readStamp (document : Bson.Document) : Except MalformedMarker Int64 :=
  match document.get? "at" with
  | none => .error .stampMissing
  | some value => match value.asStamp with
    | none => .error (.stampType value.typeName)
    | some stamp => .ok stamp

def ofDocument (document : Bson.Document) : Except MalformedMarker Marker := do
  let version ← (document.read "version" Bson.asString).mapError .version
  let migrated ← (document.read "migrated" Bson.asBoolean).mapError .migrated
  let stamp ← readStamp document
  return ⟨version, stamp, migrated⟩

end Marker

end Provision
