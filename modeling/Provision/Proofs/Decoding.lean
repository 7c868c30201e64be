import Provision.Marker.Document
/-!
What a document must hold to be read as a marker.
-/

namespace Provision

namespace Bson

theorem asString_eq_some_iff {value : Bson} {text : String} :
    value.asString = some text ↔ value = .string text := by
  cases value <;> simp [asString]

theorem asBoolean_eq_some_iff {value : Bson} {flag : Bool} :
    value.asBoolean = some flag ↔ value = .boolean flag := by
  cases value <;> simp [asBoolean]

theorem asArray_eq_some_iff {value : Bson} {items : List Bson} :
    value.asArray = some items ↔ value = .array items := by
  cases value <;> simp [asArray]

theorem Document.read_eq_ok_iff {α : Type} {document : Document} {name : String}
    {view : Bson → Option α} {found : α} :
    document.read name view = .ok found ↔
      ∃ value, document.get? name = some value ∧ view value = some found := by
  unfold read
  cases document.get? name with
  | none => simp
  | some value => cases seen : view value <;> simp [seen]

end Bson

namespace Marker

/-- The document has every field of a marker, each of a type that it may have. -/
def Describes (document : Bson.Document) : Prop :=
  (∃ text, document.get? "version" = some (.string text)) ∧
    (∃ flag, document.get? "migrated" = some (.boolean flag)) ∧
    ∃ time stamp, document.get? "at" = some time ∧ time.asStamp = some stamp

theorem readStamp_eq_ok_iff {document : Bson.Document} {stamp : Int64} :
    readStamp document = .ok stamp ↔
      ∃ time, document.get? "at" = some time ∧ time.asStamp = some stamp := by
  unfold readStamp
  cases document.get? "at" with
  | none => simp
  | some time => cases seen : time.asStamp <;> simp [seen]

theorem ofDocument_eq_ok_iff {document : Bson.Document} {marker : Marker} :
    ofDocument document = .ok marker ↔
      document.read "version" Bson.asString = .ok marker.version ∧
        document.read "migrated" Bson.asBoolean = .ok marker.migrated ∧
        readStamp document = .ok marker.stamp := by
  unfold ofDocument
  cases document.read "version" Bson.asString with
  | error fault => exact ⟨nofun, nofun⟩
  | ok text =>
    cases document.read "migrated" Bson.asBoolean with
    | error fault => exact ⟨nofun, nofun⟩
    | ok flag =>
      cases readStamp document with
      | error malformed => exact ⟨nofun, nofun⟩
      | ok stamp =>
        constructor
        · intro read
          obtain rfl : (⟨text, stamp, flag⟩ : Marker) = marker := Except.ok.inj read
          exact ⟨rfl, rfl, rfl⟩
        · rintro ⟨version, migrated, stamped⟩
          cases version
          cases migrated
          cases stamped
          rfl

theorem ofDocument_ok_iff (document : Bson.Document) :
    (∃ marker, ofDocument document = .ok marker) ↔ Describes document := by
  constructor
  · rintro ⟨marker, read⟩
    obtain ⟨text, flag, stamp⟩ := ofDocument_eq_ok_iff.1 read
    obtain ⟨value, version, isText⟩ := Bson.Document.read_eq_ok_iff.1 text
    obtain ⟨other, migrated, isFlag⟩ := Bson.Document.read_eq_ok_iff.1 flag
    obtain rfl := Bson.asString_eq_some_iff.1 isText
    obtain rfl := Bson.asBoolean_eq_some_iff.1 isFlag
    obtain ⟨time, found, isTime⟩ := readStamp_eq_ok_iff.1 stamp
    exact ⟨⟨_, version⟩, ⟨_, migrated⟩, time, _, found, isTime⟩
  · rintro ⟨⟨text, version⟩, ⟨flag, migrated⟩, time, stamp, found, isTime⟩
    refine ⟨⟨text, stamp, flag⟩, ofDocument_eq_ok_iff.2 ⟨?_, ?_, ?_⟩⟩
    · exact Bson.Document.read_eq_ok_iff.2 ⟨_, version, rfl⟩
    · exact Bson.Document.read_eq_ok_iff.2 ⟨_, migrated, rfl⟩
    · exact readStamp_eq_ok_iff.2 ⟨time, found, isTime⟩

end Marker

end Provision
