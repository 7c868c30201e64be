import Mathlib
import Provision.Proofs.Decoding
import Provision.Proofs.FirstFault
import Provision.Proofs.Truncation
/-!
Markers as documents: what is written reads back, and what a document must hold to be read.

Reading looks up three fields by their names, one after the other, and nothing else. A document is
therefore read the same in any order of its fields and with any others beside them, and what keeps
it from being a marker is the first of the three that is missing or of a wrong type.
-/

namespace Provision

namespace Bson

namespace Document

variable {document other : Document} {name : String} {value : Bson}

theorem get?_eq_some_iff (distinct : (document.map Prod.fst).Nodup) :
    document.get? name = some value ↔ (name, value) ∈ document := by
  induction document with
  | nil => simp [get?]
  | cons field rest ih =>
    obtain ⟨fresh, distinct⟩ := List.nodup_cons.1 distinct
    by_cases same : field.1 = name
    · have gone : (name, value) ∉ rest := by
        intro member
        exact fresh (List.mem_map.2 ⟨_, member, same.symm⟩)
      simp [get?, same, gone, Prod.ext_iff, eq_comm]
    · have passed : get? (field :: rest) name = get? rest name := by simp [get?, same]
      have apart : (name, value) ≠ field := fun here => same (congrArg Prod.fst here.symm)
      rw [passed, ih distinct, List.mem_cons, or_iff_right apart]

theorem get?_perm (distinct : (document.map Prod.fst).Nodup) (moved : document.Perm other) :
    other.get? name = document.get? name := by
  have stays : (other.map Prod.fst).Nodup := (moved.map _).nodup_iff.1 distinct
  apply Option.ext
  intro value
  rw [get?_eq_some_iff stays, get?_eq_some_iff distinct, moved.mem_iff]

theorem get?_filter {keep : String → Bool} (kept : keep name = true) :
    get? (document.filter fun field => keep field.1) name = document.get? name := by
  unfold get?
  rw [List.find?_filter]
  congr 2
  funext field
  by_cases same : field.1 = name <;> simp [same, kept]

end Document

/-- The value writes an integer down as a time. -/
inductive Writes (number : ℤ) : Bson → Prop
  | int64 {value : Int64} (same : value.toInt = number) : Writes number (.int64 value)
  | dateTime {milliseconds : Int64} (same : milliseconds.toInt = number) :
      Writes number (.dateTime milliseconds)
  | int32 {value : Int32} (same : value.toInt = number) : Writes number (.int32 value)
  | double {value : Double} (finite : value.IsFinite) (same : value.value = number)
      (least : Int64.minValue.toInt ≤ number) (most : number ≤ Int64.maxValue.toInt) :
      Writes number (.double value)

variable {number : ℤ} {value : Bson}

theorem writes_ofInt64 (least : Int64.minValue.toInt ≤ number)
    (most : number ≤ Int64.maxValue.toInt) :
    Writes number (.int64 (.ofInt number)) ∧ Writes number (.dateTime (.ofInt number)) := by
  have same : (Int64.ofInt number).toInt = number :=
    Int64.toInt_ofInt_of_le least (Int.lt_add_one_of_le most)
  exact ⟨.int64 same, .dateTime same⟩

theorem writes_ofInt32 (least : Int32.minValue.toInt ≤ number)
    (most : number ≤ Int32.maxValue.toInt) : Writes number (.int32 (.ofInt number)) :=
  .int32 (Int32.toInt_ofInt_of_le least (Int.lt_add_one_of_le most))

theorem Writes.asStamp (writes : value.Writes number) :
    ∃ stamp, value.asStamp = some stamp ∧ stamp.toInt = number := by
  cases writes with
  | int64 same => exact ⟨_, rfl, same⟩
  | dateTime same => exact ⟨_, rfl, same⟩
  | int32 same => exact ⟨_, rfl, (Int32.toInt_toInt64 _).trans same⟩
  | double finite same least most =>
    exact ⟨_, rfl, Double.truncated_of_value finite same least most⟩

/-- The bound of the 64-bit integers that a double lies beyond. -/
inductive Double.Exceeds (double : Double) : Int64 → Prop
  | above (finite : double.IsFinite) (beyond : (Int64.maxValue.toInt : ℚ) < double.value) :
      Exceeds double Int64.maxValue
  | below (finite : double.IsFinite) (beyond : double.value < (Int64.minValue.toInt : ℚ)) :
      Exceeds double Int64.minValue
  | infinite (infinite : double.IsInfinite) :
      Exceeds double (if double.isNegative then Int64.minValue else Int64.maxValue)

theorem Double.Exceeds.truncated {double : Double} {bound : Int64}
    (exceeds : double.Exceeds bound) : double.truncated = bound := by
  cases exceeds with
  | above finite beyond => exact truncated_of_ge (not_isNaN_of_isFinite finite) beyond.le
  | below finite beyond => exact truncated_of_le (not_isNaN_of_isFinite finite) beyond.le
  | infinite infinite => exact truncated_of_isInfinite infinite

end Bson

inductive MarkerField where
  | version
  | migrated
  | stamp
deriving DecidableEq

namespace MarkerField

open Bson (Document)

def inOrder : List MarkerField :=
  [.version, .migrated, .stamp]

def name : MarkerField → String
  | .version => "version"
  | .migrated => "migrated"
  | .stamp => "at"

def isRead (name : String) : Bool :=
  inOrder.any fun field => field.name = name

inductive Admits : MarkerField → Bson → Prop
  | string (text : String) : Admits .version (.string text)
  | boolean (flag : Bool) : Admits .migrated (.boolean flag)
  | int64 (value : Int64) : Admits .stamp (.int64 value)
  | int32 (value : Int32) : Admits .stamp (.int32 value)
  | double (value : Bson.Double) : Admits .stamp (.double value)
  | dateTime (milliseconds : Int64) : Admits .stamp (.dateTime milliseconds)

def missing : MarkerField → MalformedMarker
  | .version => .version .absent
  | .migrated => .migrated .absent
  | .stamp => .stampMissing

def mistyped (value : Bson) : MarkerField → MalformedMarker
  | .version => .version .otherType
  | .migrated => .migrated .otherType
  | .stamp => .stampType value.typeName

inductive Faulty (document : Document) : MarkerField → MalformedMarker → Prop
  | missing {field : MarkerField} (absent : document.get? field.name = none) :
      Faulty document field field.missing
  | mistyped {field : MarkerField} {value : Bson} (found : document.get? field.name = some value)
      (unfit : ¬field.Admits value) : Faulty document field (field.mistyped value)

variable {document : Document} {field : MarkerField} {malformed : MalformedMarker} {value : Bson}

theorem admits_version_iff : Admits .version value ↔ ∃ text, value.asString = some text := by
  simp only [Bson.asString_eq_some_iff]
  constructor
  · rintro ⟨text⟩
    exact ⟨text, rfl⟩
  · rintro ⟨text, rfl⟩
    exact .string text

theorem admits_migrated_iff : Admits .migrated value ↔ ∃ flag, value.asBoolean = some flag := by
  simp only [Bson.asBoolean_eq_some_iff]
  constructor
  · rintro (_ | flag)
    exact ⟨flag, rfl⟩
  · rintro ⟨flag, rfl⟩
    exact .boolean flag

theorem admits_stamp_iff : Admits .stamp value ↔ ∃ stamp, value.asStamp = some stamp := by
  constructor
  · rintro (_ | _ | _ | _ | _ | _) <;> exact ⟨_, rfl⟩
  · rintro ⟨stamp, reads⟩
    cases value with
    | int64 value => exact .int64 value
    | int32 value => exact .int32 value
    | double value => exact .double value
    | dateTime milliseconds => exact .dateTime milliseconds
    | _ => cases reads

theorem faulty_iff : Faulty document field malformed ↔
    (document.get? field.name = none ∧ malformed = field.missing) ∨
      ∃ value, document.get? field.name = some value ∧ ¬field.Admits value ∧
        malformed = field.mistyped value := by
  constructor
  · rintro (absent | ⟨found, unfit⟩)
    · exact .inl ⟨absent, rfl⟩
    · exact .inr ⟨_, found, unfit, rfl⟩
  · rintro (⟨absent, rfl⟩ | ⟨value, found, unfit, rfl⟩)
    · exact .missing absent
    · exact .mistyped found unfit

/-- A field has a value that it may have, or else something to be said against it. -/
theorem unfaulty_iff : (∀ malformed, ¬Faulty document field malformed) ↔
    ∃ value, document.get? field.name = some value ∧ field.Admits value := by
  simp only [faulty_iff]
  cases document.get? field.name with
  | none => simp
  | some value => simp

theorem checks_single {α : Type} {look : Except MalformedMarker α} {view : Bson → Option α}
    (admits : ∀ value, field.Admits value ↔ ∃ found, view value = some found)
    (looks : look = match document.get? field.name with
      | none => .error field.missing
      | some value => match view value with
        | none => .error (field.mistyped value)
        | some found => .ok found) :
    Checks (Faulty document) [field] look := by
  refine .single fun malformed => ?_
  rw [faulty_iff, looks]
  cases document.get? field.name with
  | none => simp [eq_comm]
  | some value =>
    simp only [admits]
    cases seen : view value with
    | none => simp [seen, eq_comm]
    | some found => simp [seen]

theorem version_checks : Checks (Faulty document) [.version]
    ((document.read "version" Bson.asString).mapError .version) := by
  refine checks_single (fun _ => admits_version_iff) ?_
  unfold Document.read
  simp only [name]
  cases document.get? "version" with
  | none => rfl
  | some value => cases value <;> rfl

theorem migrated_checks : Checks (Faulty document) [.migrated]
    ((document.read "migrated" Bson.asBoolean).mapError .migrated) := by
  refine checks_single (fun _ => admits_migrated_iff) ?_
  unfold Document.read
  simp only [name]
  cases document.get? "migrated" with
  | none => rfl
  | some value => cases value <;> rfl

theorem stamp_checks : Checks (Faulty document) [.stamp] (Marker.readStamp document) := by
  refine checks_single (fun _ => admits_stamp_iff) ?_
  unfold Marker.readStamp
  simp only [name]
  cases document.get? "at" with
  | none => rfl
  | some value => cases value <;> rfl

/-- The fault that is reported has the name of a field behind the same opening. -/
def Named (field : MarkerField) (malformed : MalformedMarker) : Prop :=
  ∃ reason, malformed.fault = ⟨.other, "malformed marker document: " ++ (field.name ++ reason)⟩

theorem Faulty.named (struck : Faulty document field malformed) : field.Named malformed := by
  have named (reason : String) (same : malformed.message = field.name ++ reason) :
      field.Named malformed := by
    refine ⟨reason, ?_⟩
    rw [MalformedMarker.fault, same]
  cases struck with
  | missing absent =>
    cases field with
    | version => exact named ": field is not present" (by decide)
    | migrated => exact named ": field is not present" (by decide)
    | stamp => exact named " is missing" (by decide)
  | @mistyped value present unfit =>
    cases field with
    | version =>
      have told : MalformedMarker.message (.version .otherType) =
          "version" ++ ": field does not have the expected type" := by decide
      exact named _ told
    | migrated =>
      have told : MalformedMarker.message (.migrated .otherType) =
          "migrated" ++ ": field does not have the expected type" := by decide
      exact named _ told
    | stamp =>
      have told : "at has type " = "at" ++ " has type " := by decide
      refine named (" has type " ++ value.typeName) ?_
      change "at has type " ++ value.typeName = "at" ++ (" has type " ++ value.typeName)
      rw [told, String.append_assoc]

end MarkerField

namespace Marker

open Bson (Document)

variable {document other : Document} {text : String} {flag : Bool} {time : Bson} {stamp : Int64}

theorem ofDocument_checks (document : Document) :
    Checks (MarkerField.Faulty document) MarkerField.inOrder (ofDocument document) := by
  change Checks _ ([MarkerField.version] ++ ([.migrated] ++ ([.stamp] ++ []))) _
  refine MarkerField.version_checks.bind fun version _ => ?_
  refine MarkerField.migrated_checks.bind fun migrated _ => ?_
  exact MarkerField.stamp_checks.bind fun stamp _ => .ok _

/-- What a document has in the three fields. -/
structure Holds (document : Document) (text : String) (flag : Bool) (time : Bson) : Prop where
  version : document.get? "version" = some (.string text)
  migrated : document.get? "migrated" = some (.boolean flag)
  stamp : document.get? "at" = some time

theorem Holds.ofDocument (holds : Holds document text flag time)
    (reads : time.asStamp = some stamp) : ofDocument document = .ok ⟨text, stamp, flag⟩ := by
  refine ofDocument_eq_ok_iff.2 ⟨?_, ?_, ?_⟩
  · exact Document.read_eq_ok_iff.2 ⟨_, holds.version, rfl⟩
  · exact Document.read_eq_ok_iff.2 ⟨_, holds.migrated, rfl⟩
  · exact readStamp_eq_ok_iff.2 ⟨time, holds.stamp, reads⟩

theorem ofDocument_toDocument (marker : Marker) : ofDocument marker.toDocument = .ok marker := by
  have holds : Holds marker.toDocument marker.version marker.migrated (.int64 marker.stamp) :=
    ⟨rfl, rfl, rfl⟩
  exact holds.ofDocument rfl

/-- Reading looks at the three fields only. -/
theorem ofDocument_congr
    (same : ∀ field : MarkerField, other.get? field.name = document.get? field.name) :
    ofDocument other = ofDocument document := by
  have version : other.get? "version" = document.get? "version" := same .version
  have migrated : other.get? "migrated" = document.get? "migrated" := same .migrated
  have stamp : other.get? "at" = document.get? "at" := same .stamp
  unfold ofDocument readStamp Document.read
  rw [version, migrated, stamp]

def trimmed (document : Document) : Document :=
  document.filter fun entry => MarkerField.isRead entry.1

theorem get?_trimmed (document : Document) (field : MarkerField) :
    (trimmed document).get? field.name = document.get? field.name := by
  refine Document.get?_filter ?_
  cases field <;> decide

theorem exists_ofDocument_iff (document : Document) :
    (∃ marker, ofDocument document = .ok marker) ↔
      ∀ field : MarkerField, ∃ value,
        document.get? field.name = some value ∧ field.Admits value := by
  rw [(ofDocument_checks document).exists_ok_iff]
  simp only [MarkerField.unfaulty_iff]
  constructor
  · intro present field
    exact present field (by cases field <;> decide)
  · intro present field _
    exact present field

/-- A written marker reads back. A document is a marker exactly if its three fields are there and of
types that they may have; otherwise the first field at fault is named. Neither the order of the
fields nor any other field matters. An integer is read as itself from each of the four types that
may write it, and a double beyond the 64 bits as the bound that it is beyond. -/
theorem markers_read_back :
    (∀ marker : Marker, ofDocument marker.toDocument = .ok marker) ∧
    (∀ document, (∃ marker, ofDocument document = .ok marker) ↔
      ∀ field : MarkerField, ∃ value,
        document.get? field.name = some value ∧ field.Admits value) ∧
    (∀ document malformed, ofDocument document = .error malformed ↔
      FirstFault (MarkerField.Faulty document) MarkerField.inOrder malformed) ∧
    (∀ document field malformed, MarkerField.Faulty document field malformed →
      field.Named malformed) ∧
    (∀ document other : Document, (document.map Prod.fst).Nodup → document.Perm other →
      ofDocument other = ofDocument document) ∧
    (∀ document other, trimmed other = trimmed document →
      ofDocument other = ofDocument document) ∧
    (∀ number : ℤ, Int64.minValue.toInt ≤ number → number ≤ Int64.maxValue.toInt →
      (Bson.int64 (.ofInt number)).Writes number ∧ (Bson.dateTime (.ofInt number)).Writes number) ∧
    (∀ number : ℤ, Int32.minValue.toInt ≤ number → number ≤ Int32.maxValue.toInt →
      (Bson.int32 (.ofInt number)).Writes number) ∧
    (∀ document text flag time number, Holds document text flag time → time.Writes number →
      ∃ stamp, stamp.toInt = number ∧ ofDocument document = .ok ⟨text, stamp, flag⟩) ∧
    ∀ document text flag double bound, Holds document text flag (.double double) →
      double.Exceeds bound → ofDocument document = .ok ⟨text, bound, flag⟩ := by
  refine ⟨ofDocument_toDocument, exists_ofDocument_iff, ofDocument_checks, ?_, ?_, ?_, ?_, ?_, ?_,
    ?_⟩
  · intro document field malformed struck
    exact struck.named
  · intro document other distinct moved
    exact ofDocument_congr fun field => Document.get?_perm distinct moved
  · intro document other same
    refine ofDocument_congr fun field => ?_
    rw [← get?_trimmed, same, get?_trimmed]
  · intro number least most
    exact Bson.writes_ofInt64 least most
  · intro number least most
    exact Bson.writes_ofInt32 least most
  · intro document text flag time number holds writes
    obtain ⟨stamp, reads, same⟩ := writes.asStamp
    exact ⟨stamp, same, holds.ofDocument reads⟩
  · intro document text flag double bound holds exceeds
    exact holds.ofDocument (congrArg some exceeds.truncated)

/-- A marker as a shell writes it, with a double for the time and a note of its own. -/
def shellWritten : Document :=
  [("migrated", .boolean false), ("at", .double ⟨0x4278bcfe5687b000⟩), ("note", .null),
    ("version", .string "0.2.1")]

def latest : Document :=
  [("version", .string "0.2.1"), ("migrated", .boolean true), ("at", .double ⟨0x43e158e460913d00⟩)]

def twiceFaulty : Document :=
  [("at", .null), ("version", .int32 3)]

theorem shell_written_marker_is_read :
    ofDocument shellWritten = .ok ⟨"0.2.1", 1700000000123, false⟩ ∧
      ofDocument shellWritten.reverse = ofDocument shellWritten ∧
      ofDocument latest = .ok ⟨"0.2.1", Int64.maxValue, true⟩ ∧
      ofDocument twiceFaulty = .error (.version .otherType) := by
  obtain ⟨_, _, checks, _, ordered, _, _, _, written, beyond⟩ := markers_read_back
  refine ⟨?_, ?_, ?_, ?_⟩
  · have writes : (Bson.double ⟨0x4278bcfe5687b000⟩).Writes 1700000000123 := by
      refine .double (by decide) ?_ (by decide) (by decide)
      have fields : Bson.Double.isNegative ⟨0x4278bcfe5687b000⟩ = false ∧
          Bson.Double.significand ⟨0x4278bcfe5687b000⟩ = 6963200000503808 ∧
          Bson.Double.scale ⟨0x4278bcfe5687b000⟩ = -12 := by decide
      rw [Bson.Double.value, Bson.Double.absolute, fields.1, fields.2.1, fields.2.2]
      norm_num
    obtain ⟨stamp, same, read⟩ := written shellWritten "0.2.1" false _ _ ⟨rfl, rfl, rfl⟩ writes
    have known : stamp = 1700000000123 := Int64.toInt_inj.1 same
    rw [read, known]
  · exact ordered _ _ (by decide) (List.reverse_perm _).symm
  · refine beyond latest "0.2.1" true _ _ ⟨rfl, rfl, rfl⟩ (.above (by decide) ?_)
    have fields : Bson.Double.isNegative ⟨0x43e158e460913d00⟩ = false ∧
        Bson.Double.significand ⟨0x43e158e460913d00⟩ = 4882812500000000 ∧
        Bson.Double.scale ⟨0x43e158e460913d00⟩ = 11 := by decide
    have most : Int64.maxValue.toInt = 9223372036854775807 := rfl
    rw [Bson.Double.value, Bson.Double.absolute, fields.1, fields.2.1, fields.2.2, most]
    norm_num
  · refine (checks _ _).2 (.here (.mistyped rfl ?_))
    intro admits
    cases admits

end Marker

end Provision
