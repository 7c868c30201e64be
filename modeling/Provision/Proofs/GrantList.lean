import Provision.Account.Check
import Provision.Grant.Parser
/-!
What a list of grants reads as.

Each entry of the list spells one grant or none, and the list is read if every entry spells one.
The names in an entry are trimmed, so they are blank only if they are empty; a fallback database is
taken as it is.
-/

namespace Provision

theorem Except.map_eq_ok_iff {ε α β : Type} {first : Except ε α} {make : α → β} {result : β} :
    first.map make = .ok result ↔ ∃ value, first = .ok value ∧ make value = result := by
  cases first <;> simp [Except.map]

namespace Text

theorem all_isBlank_dropWhile (cs : List Char) :
    (cs.dropWhile isBlank).all isBlank = cs.all isBlank := by
  induction cs with
  | nil => rfl
  | cons c rest ih =>
    cases blank : isBlank c with
    | true => simpa [List.dropWhile_cons, blank] using ih
    | false => simp [blank]

theorem all_isBlank_trimChars (cs : List Char) :
    (trimChars cs).all isBlank = cs.all isBlank := by
  unfold trimChars
  rw [List.all_reverse, all_isBlank_dropWhile, List.all_reverse, all_isBlank_dropWhile]

theorem isBlankText_trimmed (cs : List Char) :
    isBlankText (String.ofList (trimChars cs)) = (String.ofList (trimChars cs)).isEmpty := by
  unfold isBlankText
  rw [String.toList_ofList, all_isBlank_trimChars, Bool.eq_iff_iff, ← trimChars_eq_nil_iff,
    String.isEmpty_iff]
  simp

theorem cutAt_eq_none_iff {separator : Char} {cs : List Char} :
    cutAt separator cs = none ↔ separator ∉ cs := by
  induction cs with
  | nil => simp [cutAt]
  | cons c rest ih =>
    by_cases here : c = separator
    · simp [cutAt, here]
    · simp [cutAt, here, ih, Ne.symm here]

end Text

namespace Grant

def entries (text : String) : List (List Char) :=
  (Text.pieces ',' text.toList).map Text.trimChars

variable {fallback text : String} {grants : List Grant} {grant : Grant}

theorem entries_ne_nil (text : String) : entries text ≠ [] := by
  simp [entries, Text.pieces_ne_nil]

theorem ofEntries_eq_ok_iff {given : List (List Char)} :
    ofEntries fallback given = .ok grants ↔ given.map (ofChars fallback) = grants.map some := by
  induction given generalizing grants with
  | nil => cases grants <;> simp [ofEntries]
  | cons entry rest ih =>
    unfold ofEntries
    cases spells : ofChars fallback entry with
    | none => cases grants <;> simp [spells]
    | some first =>
      simp only [Except.map_eq_ok_iff, ih, List.map_cons, spells]
      constructor
      · rintro ⟨others, read, rfl⟩
        rw [read, List.map_cons]
      · intro same
        obtain ⟨grant, others, rfl, head, tail⟩ := List.map_eq_cons_iff.1 same.symm
        exact ⟨others, tail.symm, by rw [Option.some.inj head]⟩

/-- A list is read if every entry spells a grant. Each of these is kept once. -/
theorem parse_eq_ok_iff : parse fallback text = .ok grants ↔
    ∃ spelled, (entries text).map (ofChars fallback) = spelled.map some ∧
      grants = distinct spelled := by
  unfold parse
  rw [← entries]
  simp only [Except.map_eq_ok_iff, ofEntries_eq_ok_iff, @eq_comm _ _ grants]

theorem mem_of_parse (read : parse fallback text = .ok grants) :
    grant ∈ grants ↔ ∃ entry ∈ entries text, ofChars fallback entry = some grant := by
  obtain ⟨spelled, spells, rfl⟩ := parse_eq_ok_iff.1 read
  calc grant ∈ distinct spelled
    _ ↔ some grant ∈ spelled.map some := by simp [mem_distinct]
    _ ↔ ∃ entry ∈ entries text, ofChars fallback entry = some grant := by
      rw [← spells, List.mem_map]

theorem spells_of_parse (read : parse fallback text = .ok grants) {entry : List Char}
    (member : entry ∈ entries text) : ∃ grant ∈ grants, ofChars fallback entry = some grant := by
  obtain ⟨spelled, spells, rfl⟩ := parse_eq_ok_iff.1 read
  have there : ofChars fallback entry ∈ spelled.map some := spells ▸ List.mem_map_of_mem member
  obtain ⟨grant, among, same⟩ := List.mem_map.1 there
  exact ⟨grant, mem_distinct.2 among, same.symm⟩

theorem ne_nil_of_parse (read : parse fallback text = .ok grants) : grants ≠ [] := by
  obtain ⟨entry, rest, first⟩ := List.exists_cons_of_ne_nil (entries_ne_nil text)
  have member : entry ∈ entries text := first ▸ .head rest
  obtain ⟨grant, among, -⟩ := spells_of_parse read member
  exact List.ne_nil_of_mem among

theorem ofChars_eq_some {entry : List Char} (spells : ofChars fallback entry = some grant) :
    (grant = match Text.cutAt '@' entry with
      | some (role, database) =>
        ⟨String.ofList (Text.trimChars role), String.ofList (Text.trimChars database)⟩
      | none => ⟨String.ofList entry, fallback⟩) ∧
      grant.role.isEmpty = false ∧ grant.database.isEmpty = false := by
  unfold ofChars at spells
  simp only [Option.ite_none_left_eq_some, Bool.not_eq_true, Bool.or_eq_false_iff,
    Option.some.injEq] at spells
  obtain ⟨named, rfl⟩ := spells
  exact ⟨rfl, named⟩

/-- Of the grants that are read only those on a blank fallback are malformed. -/
theorem isMalformed_of_ofChars {piece : List Char}
    (spells : ofChars fallback (Text.trimChars piece) = some grant) :
    grant.isMalformed = true ↔ '@' ∉ Text.trimChars piece ∧ Text.isBlankText fallback = true := by
  obtain ⟨same, role, database⟩ := ofChars_eq_some spells
  unfold isMalformed
  cases cut : Text.cutAt '@' (Text.trimChars piece) with
  | none =>
    rw [cut] at same
    obtain rfl := same
    simp [Text.isBlankText_trimmed, role, Text.cutAt_eq_none_iff.1 cut]
  | some parts =>
    obtain ⟨before, after⟩ := parts
    rw [cut] at same
    obtain rfl := same
    have placed : '@' ∈ Text.trimChars piece := by
      rw [(Text.cutAt_eq_some cut).1]
      exact List.mem_append_right before (.head after)
    simp only at role database
    simp [Text.isBlankText_trimmed, role, database, placed]

theorem database_of_bare {entry : List Char} (bare : '@' ∉ entry)
    (spells : ofChars fallback entry = some grant) : grant.database = fallback := by
  obtain ⟨same, -⟩ := ofChars_eq_some spells
  rw [Text.cutAt_eq_none_iff.2 bare] at same
  rw [same]

end Grant

end Provision
