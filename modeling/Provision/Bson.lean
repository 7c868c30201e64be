import Provision.Bson.Double
/-!
BSON values and documents, as far as markers and administrative commands read and write them.

A document is a list of named values, in order and with no name twice. Values of the types that
nothing here looks into are kept as their type alone.
-/

namespace Provision

namespace Bson

/-- The types whose contents are never read. -/
inductive Sealed where
  | objectId
  | regularExpression
  | timestamp
  | binary
  | javaScriptCode
  | javaScriptCodeWithScope
  | symbol
  | dbPointer
  | decimal128
  | undefined
  | minKey
  | maxKey
deriving DecidableEq

def Sealed.name : Sealed → String
  | .objectId => "ObjectId"
  | .regularExpression => "RegularExpression"
  | .timestamp => "Timestamp"
  | .binary => "Binary"
  | .javaScriptCode => "JavaScriptCode"
  | .javaScriptCodeWithScope => "JavaScriptCodeWithScope"
  | .symbol => "Symbol"
  | .dbPointer => "DbPointer"
  | .decimal128 => "Decimal128"
  | .undefined => "Undefined"
  | .minKey => "MinKey"
  | .maxKey => "MaxKey"

end Bson

inductive Bson where
  | string (text : String)
  | boolean (value : Bool)
  | null
  | int32 (value : Int32)
  | int64 (value : Int64)
  | double (value : Bson.Double)
  | dateTime (milliseconds : Int64)
  | document (fields : List (String × Bson))
  | array (items : List Bson)
  | sealed (type : Bson.Sealed)

namespace Bson

instance : Inhabited Bson := ⟨.null⟩

def typeName : Bson → String
  | .string _ => "String"
  | .boolean _ => "Boolean"
  | .null => "Null"
  | .int32 _ => "Int32"
  | .int64 _ => "Int64"
  | .double _ => "Double"
  | .dateTime _ => "DateTime"
  | .document _ => "EmbeddedDocument"
  | .array _ => "Array"
  | .sealed type => type.name

abbrev Document : Type := List (String × Bson)

inductive FieldFault where
  | absent
  | otherType
deriving DecidableEq

def FieldFault.message : FieldFault → String
  | .absent => "field is not present"
  | .otherType => "field does not have the expected type"

namespace Document

def get? (document : Document) (name : String) : Option Bson :=
  (List.find? (fun field => decide (field.1 = name)) document).map Prod.snd

/-- Sets a field, in its old place if it has one. -/
def set (document : Document) (name : String) (value : Bson) : Document :=
  match document with
  | [] => [(name, value)]
  | field :: rest =>
    if field.1 = name then (name, value) :: rest else field :: set rest name value

/-- The document of a list of fields; a repeated name keeps its first place and its last value. -/
def ofFields (fields : List (String × Bson)) : Document :=
  fields.foldl (fun document (name, value) => set document name value) []

def read {α : Type} (document : Document) (name : String) (view : Bson → Option α) :
    Except FieldFault α :=
  match document.get? name with
  | none => .error .absent
  | some value => match view value with
    | none => .error .otherType
    | some found => .ok found

end Document

def asString : Bson → Option String
  | .string text => some text
  | _ => none

def asBoolean : Bson → Option Bool
  | .boolean value => some value
  | _ => none

def asArray : Bson → Option (List Bson)
  | .array items => some items
  | _ => none

def asDocument : Bson → Option Document
  | .document fields => some fields
  | _ => none

/-- The number a value stands for, truncated, if it is a number or a time. -/
def asStamp : Bson → Option Int64
  | .int64 value => some value
  | .int32 value => some value.toInt64
  | .double value => some value.truncated
  | .dateTime milliseconds => some milliseconds
  | _ => none

end Bson

end Provision
