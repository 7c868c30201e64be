import Provision.Proofs.GrantGrammar
/-!
Grants that are written and read again.

A written grant has its role before the first at sign, so it is cut where it was joined, whatever
the database holds. What is read from a list can be written in such a list again, as long as the
fallback database can.
-/

namespace Provision

/-- Holds of a grant that can be written in a list. Only the role has to be free of at signs. -/
structure Grant.Plain (grant : Grant) : Prop where
  role : Text.Listable grant.role.toList
  unplaced : '@' ∉ grant.role.toList
  database : Text.Listable grant.database.toList

namespace Grant

variable {fallback text : String} {grants : List Grant} {grant : Grant}

theorem toList_written (grant : Grant) :
    grant.written.toList = grant.role.toList ++ '@' :: grant.database.toList := by
  simp [written]

theorem toList_writtenAll (grants : List Grant) :
    (writtenAll grants).toList =
      [','].intercalate (grants.map fun grant => grant.written.toList) := by
  simp [writtenAll, String.toList_intercalate, Function.comp_def]

theorem Plain.written_trimmed (plain : grant.Plain) : Text.Trimmed grant.written.toList := by
  rw [toList_written]
  constructor
  · intro c first
    rw [List.head?_append_of_ne_nil _ plain.role.named] at first
    exact plain.role.trimmed.1 c first
  · intro c last
    rw [List.getLast?_append, List.getLast?_cons_of_ne_nil plain.database.named,
      Option.or_of_isSome (by simpa using plain.database.named)] at last
    exact plain.database.trimmed.2 c last

theorem Plain.written_whole (plain : grant.Plain) : ',' ∉ grant.written.toList := by
  rw [toList_written]
  simp [plain.role.whole, plain.database.whole]

theorem Plain.spells_written (plain : grant.Plain) (fallback : String) :
    Spells fallback grant.written.toList grant := by
  have role := Text.trimChars_of_trimmed plain.role.trimmed
  have database := Text.trimChars_of_trimmed plain.database.trimmed
  have spells : Spells fallback (grant.role.toList ++ '@' :: grant.database.toList) _ :=
    .placed plain.unplaced (role.symm ▸ plain.role.named) (database.symm ▸ plain.database.named)
  rw [role, database, String.ofList_toList, String.ofList_toList] at spells
  rw [toList_written]
  exact spells

/-- A written list is cut into the grants it was joined from. -/
theorem entries_writtenAll (filled : grants ≠ []) (plain : ∀ grant ∈ grants, grant.Plain) :
    entries (writtenAll grants) = grants.map fun grant => grant.written.toList := by
  have whole : ∀ written ∈ grants.map fun grant => grant.written.toList, ',' ∉ written := by
    intro written member
    obtain ⟨grant, among, rfl⟩ := List.mem_map.1 member
    exact (plain grant among).written_whole
  rw [entries_eq, toList_writtenAll, List.splitOn_intercalate ',' whole (by simpa using filled),
    List.map_map]
  exact List.map_congr_left fun grant among =>
    Text.trimChars_of_trimmed (plain grant among).written_trimmed

theorem parse_writtenAll (filled : grants ≠ []) (plain : ∀ grant ∈ grants, grant.Plain)
    (fallback : String) : parse fallback (writtenAll grants) = .ok (distinct grants) := by
  rw [parse_eq_ok_iff_spells, entries_writtenAll filled plain]
  refine ⟨grants, ?_, distinct_firstOccurrences grants⟩
  rw [List.forall₂_map_left_iff, List.forall₂_same]
  exact fun grant among => (plain grant among).spells_written fallback

theorem plain_of_parse (home : Text.Listable fallback.toList)
    (read : parse fallback text = .ok grants) (member : grant ∈ grants) : grant.Plain := by
  obtain ⟨entry, trimmed, whole, spells⟩ := spelled_of_parse read member
  obtain ⟨role, unplaced⟩ := spells.role_listable trimmed whole
  refine ⟨role, unplaced, ?_⟩
  rcases spells.database_listable whole with listable | same
  · exact listable
  · exact same ▸ home

/-- Grants that can be written are read back from their written forms, each where it first occurs,
over any fallback. Whatever was read over a fallback that can be written is read back unchanged. -/
theorem written_grants_are_read_back :
    (∀ grants : List Grant, grants ≠ [] → (∀ grant ∈ grants, grant.Plain) →
      ∀ fallback, ∃ kept, parse fallback (writtenAll grants) = .ok kept ∧
        FirstOccurrences grants kept) ∧
    ∀ (fallback text : String) (grants : List Grant), Text.Listable fallback.toList →
      parse fallback text = .ok grants →
        ∀ other, parse other (writtenAll grants) = .ok grants := by
  constructor
  · intro grants filled plain fallback
    exact ⟨_, parse_writtenAll filled plain fallback, distinct_firstOccurrences grants⟩
  · intro fallback text grants home read other
    have nodup : grants.Nodup := by
      obtain ⟨spelled, -, first⟩ := parse_eq_ok_iff_spells.1 read
      exact first.nodup
    rw [parse_writtenAll (ne_nil_of_parse read) (fun _ => plain_of_parse home read),
      distinct_of_nodup nodup]

/-- A database with an at sign, a repeated grant, and a list with blanks that is read over one
fallback and written for another. -/
theorem repeated_grant_is_read_back_once :
    let grants : List Grant := [⟨"read", "a@b"⟩, ⟨"dbOwner", "app"⟩, ⟨"read", "a@b"⟩]
    (∃ kept, parse "other" "read@a@b,dbOwner@app,read@a@b" = .ok kept ∧
      FirstOccurrences grants kept) ∧
    parse "app" " read@ a@b,dbOwner, read@a@b" = .ok [⟨"read", "a@b"⟩, ⟨"dbOwner", "app"⟩] ∧
    parse "other" "read@a@b,dbOwner@app" = .ok [⟨"read", "a@b"⟩, ⟨"dbOwner", "app"⟩] := by
  intro grants
  have written : writtenAll grants = "read@a@b,dbOwner@app,read@a@b" := by decide
  have home : Text.Listable "app".toList := ⟨by decide, Text.trimmed_iff.2 (by decide), by decide⟩
  have plain : ∀ grant ∈ grants, grant.Plain := by
    simp only [grants, List.mem_cons, List.not_mem_nil, or_false]
    rintro grant (rfl | rfl | rfl) <;>
      exact ⟨⟨by decide, Text.trimmed_iff.2 (by decide), by decide⟩, by decide,
        ⟨by decide, Text.trimmed_iff.2 (by decide), by decide⟩⟩
  have read : parse "app" " read@ a@b,dbOwner, read@a@b" =
      .ok [⟨"read", "a@b"⟩, ⟨"dbOwner", "app"⟩] := by cbv
  have back := written_grants_are_read_back
  exact ⟨written ▸ back.1 grants (by decide) plain "other", read,
    back.2 "app" _ _ home read "other"⟩

end Grant

end Provision
