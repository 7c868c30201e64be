import Provision.Grant
import Provision.Text.Blank
import Provision.Text.Pieces
/-!
Reading grants from text.

Entries stand between commas. An entry is a role, or a role, an at sign and a database; blanks
around an entry and around its two parts do not count. An entry without an at sign is granted on a
fallback database. Both names have to be there, and a repeated grant counts once.
-/

namespace Provision.Grant

/-- The grant that a trimmed entry spells, or nothing if one of its names is empty. -/
def ofChars (fallback : String) (entry : List Char) : Option Grant :=
  let grant : Grant := match Text.cutAt '@' entry with
    | some (role, database) =>
      ⟨String.ofList (Text.trimChars role), String.ofList (Text.trimChars database)⟩
    | none => ⟨String.ofList entry, fallback⟩
  if grant.role.isEmpty || grant.database.isEmpty then none else some grant

def ofEntries (fallback : String) : List (List Char) → Except String (List Grant)
  | [] => .ok []
  | entry :: rest =>
    match ofChars fallback entry with
    | none => .error (String.ofList entry)
    | some grant => (ofEntries fallback rest).map (grant :: ·)

/-- Reads a list of grants; a malformed entry is reported as it stands between its commas,
trimmed. -/
def parse (fallback text : String) : Except String (List Grant) :=
  (ofEntries fallback ((Text.pieces ',' text.toList).map Text.trimChars)).map distinct

def writtenAll (grants : List Grant) : String :=
  ",".intercalate (grants.map written)

end Provision.Grant
