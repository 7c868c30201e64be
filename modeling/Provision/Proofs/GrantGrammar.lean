import Mathlib
import Provision.Proofs.FirstFault
import Provision.Proofs.GrantList
import Provision.Settings.Fault
/-!
The grammar of grant lists.

An entry without an at sign is a role on the fallback database; otherwise its first at sign parts a
role from a database. A list is read exactly if no entry is malformed, the first malformed entry is
the one reported, and what is read are the first occurrences of the grants that the entries spell.
-/

namespace Provision

/-- Holds of a text that can stand in a list: it is not empty, has no blank at either end and no
comma. -/
structure Text.Listable (cs : List Char) : Prop where
  named : cs ≠ []
  trimmed : Trimmed cs
  whole : ',' ∉ cs

theorem Text.listable_trimChars {cs : List Char} (whole : ',' ∉ cs) (named : trimChars cs ≠ []) :
    Listable (trimChars cs) :=
  ⟨named, trimmed_trimChars cs, fun member => whole (mem_of_mem_trimChars member)⟩

theorem SettingsFault.malformedGrant_message (entry : String) :
    (malformedGrant entry).message =
      "Environment variable 'MONGO_ROLES' has a malformed entry: '" ++ entry ++
        "' (expected role or role@database)" := by
  have lead : "Environment variable 'MONGO_ROLES' has a malformed entry: '" =
      "Environment variable '" ++ "MONGO_ROLES" ++ "' has a malformed entry: '" := by decide
  calc (malformedGrant entry).message
    _ = "Environment variable '" ++ "MONGO_ROLES" ++
        ("' has a malformed entry: '" ++ entry ++ "' (expected role or role@database)") := rfl
    _ = _ := by
      rw [lead]
      simp only [String.append_assoc]

namespace Grant

/-- What a trimmed entry spells. A fallback database is taken as it is. -/
inductive Spells (fallback : String) : List Char → Grant → Prop
  | bare {entry : List Char} (unplaced : '@' ∉ entry) (named : entry ≠ []) (home : fallback ≠ "") :
      Spells fallback entry ⟨String.ofList entry, fallback⟩
  | placed {role database : List Char} (first : '@' ∉ role) (named : Text.trimChars role ≠ [])
      (home : Text.trimChars database ≠ []) :
      Spells fallback (role ++ '@' :: database)
        ⟨String.ofList (Text.trimChars role), String.ofList (Text.trimChars database)⟩

/-- A trimmed entry of which one of the names is missing. -/
inductive Malformed (fallback : String) : List Char → Prop
  | bare {entry : List Char} (unplaced : '@' ∉ entry) (missing : entry = [] ∨ fallback = "") :
      Malformed fallback entry
  | placed {role database : List Char} (first : '@' ∉ role)
      (missing : Text.trimChars role = [] ∨ Text.trimChars database = []) :
      Malformed fallback (role ++ '@' :: database)

variable {fallback text : String} {grants : List Grant} {grant : Grant} {entry : List Char}

theorem ofChars_of_bare (unplaced : '@' ∉ entry) :
    ofChars fallback entry =
      if entry = [] ∨ fallback = "" then none else some ⟨String.ofList entry, fallback⟩ := by
  simp [ofChars, Text.cutAt_eq_none_iff.2 unplaced, String.isEmpty_iff]

theorem ofChars_of_placed {role database : List Char} (first : '@' ∉ role) :
    ofChars fallback (role ++ '@' :: database) =
      if Text.trimChars role = [] ∨ Text.trimChars database = [] then none
      else some ⟨String.ofList (Text.trimChars role), String.ofList (Text.trimChars database)⟩ := by
  simp [ofChars, Text.cutAt_append first, String.isEmpty_iff]

theorem bare_or_placed (entry : List Char) :
    '@' ∉ entry ∨ ∃ role database, entry = role ++ '@' :: database ∧ '@' ∉ role := by
  cases cut : Text.cutAt '@' entry with
  | none => exact .inl (Text.cutAt_eq_none_iff.1 cut)
  | some parts => exact .inr ⟨parts.1, parts.2, Text.cutAt_eq_some cut⟩

theorem ofChars_eq_some_iff :
    ofChars fallback entry = some grant ↔ Spells fallback entry grant := by
  constructor
  · intro spells
    rcases bare_or_placed entry with unplaced | ⟨role, database, rfl, first⟩
    · rw [ofChars_of_bare unplaced, Option.ite_none_left_eq_some] at spells
      obtain ⟨named, same⟩ := spells
      obtain rfl := Option.some.inj same
      exact .bare unplaced (not_or.1 named).1 (not_or.1 named).2
    · rw [ofChars_of_placed first, Option.ite_none_left_eq_some] at spells
      obtain ⟨named, same⟩ := spells
      obtain rfl := Option.some.inj same
      exact .placed first (not_or.1 named).1 (not_or.1 named).2
  · rintro (⟨unplaced, named, home⟩ | ⟨first, named, home⟩)
    · rw [ofChars_of_bare unplaced, if_neg (not_or.2 ⟨named, home⟩)]
    · rw [ofChars_of_placed first, if_neg (not_or.2 ⟨named, home⟩)]

theorem ofChars_eq_none_iff : ofChars fallback entry = none ↔ Malformed fallback entry := by
  constructor
  · intro fails
    rcases bare_or_placed entry with unplaced | ⟨role, database, rfl, first⟩
    · rw [ofChars_of_bare unplaced, ite_eq_left_iff] at fails
      exact .bare unplaced (Decidable.by_contra fun complete => nomatch fails complete)
    · rw [ofChars_of_placed first, ite_eq_left_iff] at fails
      exact .placed first (Decidable.by_contra fun complete => nomatch fails complete)
  · rintro (⟨unplaced, missing⟩ | ⟨first, missing⟩)
    · rw [ofChars_of_bare unplaced, if_pos missing]
    · rw [ofChars_of_placed first, if_pos missing]

theorem ofEntries_eq_error_iff {given : List (List Char)} {said : String} :
    ofEntries fallback given = .error said ↔
      FirstFault (fun entry said => Malformed fallback entry ∧ said = String.ofList entry) given
        said := by
  induction given with
  | nil => simp [ofEntries, FirstFault.not_nil]
  | cons entry rest ih =>
    unfold ofEntries
    rw [FirstFault.cons_iff, ← ih]
    cases spells : ofChars fallback entry with
    | none =>
      have malformed := ofChars_eq_none_iff.1 spells
      simp [malformed, eq_comm]
    | some grant =>
      have sound : ¬Malformed fallback entry := by
        rw [← ofChars_eq_none_iff, spells]
        exact Option.some_ne_none grant
      have same : (ofEntries fallback rest).map (grant :: ·) = .error said ↔
          ofEntries fallback rest = .error said := by
        cases ofEntries fallback rest <;> simp [Except.map]
      simp [sound, same]

theorem entries_eq (text : String) :
    entries text = (text.toList.splitOn ',').map Text.trimChars := by
  rw [entries, Text.pieces_eq_splitOn]

theorem parse_eq_error_iff {said : String} :
    parse fallback text = .error said ↔
      FirstFault (fun entry said => Malformed fallback entry ∧ said = String.ofList entry)
        (entries text) said := by
  rw [← ofEntries_eq_error_iff, parse, entries]
  cases ofEntries fallback ((Text.pieces ',' text.toList).map Text.trimChars) <;> simp [Except.map]

theorem forall₂_spells_iff {given : List (List Char)} :
    given.map (ofChars fallback) = grants.map some ↔
      List.Forall₂ (Spells fallback) given grants := by
  rw [← List.forall₂_eq_eq_eq, List.forall₂_map_left_iff, List.forall₂_map_right_iff]
  simp only [ofChars_eq_some_iff]

/-- What is read are the first occurrences of what the entries spell. -/
theorem parse_eq_ok_iff_spells : parse fallback text = .ok grants ↔
    ∃ spelled, List.Forall₂ (Spells fallback) (entries text) spelled ∧
      FirstOccurrences spelled grants := by
  rw [parse_eq_ok_iff]
  refine exists_congr fun spelled => and_congr forall₂_spells_iff ?_
  constructor
  · rintro rfl
    exact distinct_firstOccurrences spelled
  · exact fun first => first.unique (distinct_firstOccurrences spelled)

theorem Spells.role_listable (spells : Spells fallback entry grant) (trimmed : Text.Trimmed entry)
    (whole : ',' ∉ entry) : Text.Listable grant.role.toList ∧ '@' ∉ grant.role.toList := by
  cases spells with
  | bare unplaced named home =>
    rw [String.toList_ofList]
    exact ⟨⟨named, trimmed, whole⟩, unplaced⟩
  | placed first named home =>
    rw [String.toList_ofList]
    have inside := mt (List.mem_append_left _) whole
    refine ⟨Text.listable_trimChars inside named, fun member => ?_⟩
    exact first (Text.mem_of_mem_trimChars member)

theorem Spells.database_listable (spells : Spells fallback entry grant) (whole : ',' ∉ entry) :
    Text.Listable grant.database.toList ∨ grant.database = fallback := by
  cases spells with
  | bare unplaced named home => exact .inr rfl
  | placed first named home =>
    rw [String.toList_ofList]
    have inside := mt (List.mem_append_right _ ∘ List.mem_cons_of_mem _) whole
    exact .inl (Text.listable_trimChars inside home)

theorem spelled_of_parse (read : parse fallback text = .ok grants) (member : grant ∈ grants) :
    ∃ entry, Text.Trimmed entry ∧ ',' ∉ entry ∧ Spells fallback entry grant := by
  obtain ⟨entry, listed, spells⟩ := (mem_of_parse read).1 member
  obtain ⟨piece, cut, rfl⟩ := List.mem_map.1 listed
  refine ⟨_, Text.trimmed_trimChars piece, fun comma => ?_, ofChars_eq_some_iff.1 spells⟩
  exact Text.not_mem_of_mem_pieces cut (Text.mem_of_mem_trimChars comma)

/-- Which texts are read as lists of grants, which entry a refusal names, and what is read: the
grants of the entries, each where it first occurs. -/
theorem parse_accepts_its_grammar (fallback text : String) :
    let entries := (text.toList.splitOn ',').map Text.trimChars
    ((∃ said, parse fallback text = .error said) ↔
      ∃ entry ∈ entries, Malformed fallback entry) ∧
    (∀ said, parse fallback text = .error said ↔
      FirstFault (fun entry said => Malformed fallback entry ∧ said = String.ofList entry)
        entries said) ∧
    (∀ said, (SettingsFault.malformedGrant said).message =
      "Environment variable 'MONGO_ROLES' has a malformed entry: '" ++ said ++
        "' (expected role or role@database)") ∧
    (∀ grants, parse fallback text = .ok grants ↔
      ∃ spelled, List.Forall₂ (Spells fallback) entries spelled ∧
        FirstOccurrences spelled grants) ∧
    ∀ grants, parse fallback text = .ok grants →
      grants ≠ [] ∧ grants.Nodup ∧
        (∀ grant ∈ grants, Text.Listable grant.role.toList ∧ '@' ∉ grant.role.toList) ∧
        ∀ entry ∈ entries, ∃ grant ∈ grants, Spells fallback entry grant := by
  intro entries
  have listed : Grant.entries text = entries := entries_eq text
  refine ⟨?_, fun said => ?_, SettingsFault.malformedGrant_message, fun grants => ?_,
    fun grants read => ?_⟩
  · simp only [parse_eq_error_iff, FirstFault.exists_iff, listed]
    refine exists_congr fun entry => and_congr_right fun _ => ?_
    exact ⟨fun struck => struck.choose_spec.1, fun malformed => ⟨_, malformed, rfl⟩⟩
  · rw [parse_eq_error_iff, listed]
  · rw [parse_eq_ok_iff_spells, listed]
  · obtain ⟨spelled, -, first⟩ := parse_eq_ok_iff_spells.1 read
    refine ⟨ne_nil_of_parse read, first.nodup, fun grant member => ?_, fun entry member => ?_⟩
    · obtain ⟨entry, trimmed, whole, spells⟩ := spelled_of_parse read member
      exact spells.role_listable trimmed whole
    · obtain ⟨grant, among, spells⟩ := spells_of_parse read (listed ▸ member)
      exact ⟨grant, among, ofChars_eq_some_iff.1 spells⟩

/-- A grant that is spelled in two ways, and one on a database with an at sign. -/
theorem repeated_entries_are_read_once :
    let text := " dbOwner, read@ a@b,dbOwner@app "
    let grants : List Grant := [⟨"dbOwner", "app"⟩, ⟨"read", "a@b"⟩]
    parse "app" text = .ok grants ∧ grants.Nodup ∧
      ∃ spelled, List.Forall₂ (Spells "app")
          ((text.toList.splitOn ',').map Text.trimChars) spelled ∧
        FirstOccurrences spelled grants := by
  intro text grants
  have read : parse "app" text = .ok grants := by cbv
  have accepted := (parse_accepts_its_grammar "app" text).2.2.2
  exact ⟨read, (accepted.2 grants read).2.1, (accepted.1 grants).1 read⟩

end Grant

end Provision
