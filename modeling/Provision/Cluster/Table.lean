import Provision.Text.Order
/-!
Tables: finite maps from pairs of texts to values, in ascending order of keys.

The order is part of the type, so two tables that look up alike are equal, and listing a table
lists its keys in order.
-/

namespace Provision

/-- A pair of texts: a database and the name of something on it. -/
abbrev Key : Type := String × String

namespace Table

/-- Puts an entry at its place in an ascending list, over an entry of the same key. -/
def insertEntry {β : Type} (key : Key) (value : β) : List (Key × β) → List (Key × β)
  | [] => [(key, value)]
  | entry :: rest =>
    if key = entry.1 then (key, value) :: rest
    else if Text.Earlier key entry.1 then (key, value) :: entry :: rest
    else entry :: insertEntry key value rest

theorem mem_insertEntry {β : Type} {key : Key} {value : β} {entries : List (Key × β)}
    {entry : Key × β} (member : entry ∈ insertEntry key value entries) :
    entry = (key, value) ∨ entry ∈ entries := by
  induction entries with
  | nil => simpa [insertEntry] using member
  | cons head rest ih =>
    unfold insertEntry at member
    split at member
    · rcases List.mem_cons.1 member with here | there
      · exact .inl here
      · exact .inr (List.mem_cons_of_mem _ there)
    split at member
    · exact List.mem_cons.1 member
    · rcases List.mem_cons.1 member with here | there
      · exact .inr (here ▸ List.mem_cons_self)
      · exact (ih there).imp_right (List.mem_cons_of_mem _)

theorem pairwise_insertEntry {β : Type} {key : Key} {value : β} {entries : List (Key × β)}
    (ascending : entries.Pairwise fun a b => Text.Earlier a.1 b.1) :
    (insertEntry key value entries).Pairwise fun a b => Text.Earlier a.1 b.1 := by
  induction entries with
  | nil => simp [insertEntry]
  | cons head rest ih =>
    obtain ⟨first, others⟩ := List.pairwise_cons.1 ascending
    unfold insertEntry
    split
    case isTrue same => exact List.pairwise_cons.2 ⟨fun b later => same ▸ first b later, others⟩
    split
    case isTrue less =>
      refine List.pairwise_cons.2 ⟨fun b later => ?_, ascending⟩
      rcases List.mem_cons.1 later with here | there
      · exact here ▸ less
      · exact less.trans (first b there)
    case isFalse different notLess =>
      refine List.pairwise_cons.2 ⟨fun b later => ?_, ih others⟩
      rcases mem_insertEntry later with new | old
      · rcases Text.earlier_or_eq_or_earlier key head.1 with less | same | greater
        · exact absurd less notLess
        · exact absurd same different
        · exact new ▸ greater
      · exact first b old

end Table

structure Table (β : Type) where
  entries : List (Key × β) := []
  ascending : entries.Pairwise (fun a b => Text.Earlier a.1 b.1) := by simp

namespace Table

variable {β : Type}

def empty : Table β := {}

def find? (table : Table β) (key : Key) : Option β :=
  (table.entries.find? fun entry => decide (entry.1 = key)).map Prod.snd

def contains (table : Table β) (key : Key) : Bool :=
  (table.find? key).isSome

def insert (table : Table β) (key : Key) (value : β) : Table β where
  entries := insertEntry key value table.entries
  ascending := pairwise_insertEntry table.ascending

def names (table : Table β) (database : String) : List String :=
  (table.entries.filter fun entry => decide (entry.1.1 = database)).map fun entry => entry.1.2

@[simp] theorem find?_empty (key : Key) : (empty : Table β).find? key = none := rfl

theorem find?_insertEntry (key other : Key) (value : β) (entries : List (Key × β))
    (ascending : entries.Pairwise fun a b => Text.Earlier a.1 b.1) :
    (insertEntry key value entries).find? (fun entry => decide (entry.1 = other)) =
      if key = other then some (key, value)
      else entries.find? fun entry => decide (entry.1 = other) := by
  induction entries with
  | nil => by_cases same : key = other <;> simp [insertEntry, same]
  | cons head rest ih =>
    have later := ih (List.pairwise_cons.1 ascending).2
    unfold insertEntry
    split
    case isTrue here =>
      by_cases same : key = other
      · simp [same]
      · have differs : ¬head.1 = other := here ▸ same
        simp [same, differs]
    split
    · by_cases same : key = other <;> simp [same]
    case isFalse different _ =>
      by_cases same : key = other
      · have differs : ¬head.1 = other := fun equal => different (same.trans equal.symm)
        simpa [same, differs] using later
      · by_cases found : head.1 = other
        · simp [found, same]
        · simpa [found, same] using later

theorem find?_insert (table : Table β) (key other : Key) (value : β) :
    (table.insert key value).find? other =
      if key = other then some value else table.find? other := by
  unfold find? insert
  rw [find?_insertEntry key other value table.entries table.ascending]
  by_cases same : key = other <;> simp [same]

theorem find?_insert_self (table : Table β) (key : Key) (value : β) :
    (table.insert key value).find? key = some value :=
  (table.find?_insert key key value).trans (if_pos rfl)

theorem find?_insert_of_ne {key other : Key} (different : key ≠ other) (table : Table β)
    (value : β) : (table.insert key value).find? other = table.find? other :=
  (table.find?_insert key other value).trans (if_neg different)

theorem find?_eq_none_of_earlier (key : Key) (entries : List (Key × β))
    (before : ∀ entry ∈ entries, Text.Earlier key entry.1) :
    entries.find? (fun entry => decide (entry.1 = key)) = none := by
  refine List.find?_eq_none.2 fun entry member same => ?_
  have equal : entry.1 = key := by simpa using same
  exact Text.earlier_irrefl key (equal ▸ before entry member)

theorem entries_eq_of_find? {left right : List (Key × β)}
    (ascendingLeft : left.Pairwise fun a b => Text.Earlier a.1 b.1)
    (ascendingRight : right.Pairwise fun a b => Text.Earlier a.1 b.1)
    (same : ∀ key, left.find? (fun entry => decide (entry.1 = key)) =
      right.find? fun entry => decide (entry.1 = key)) : left = right := by
  induction left generalizing right with
  | nil =>
    cases right with
    | nil => rfl
    | cons b others => simpa using same b.1
  | cons a rest ih =>
    cases right with
    | nil => simpa using same a.1
    | cons b others =>
      obtain ⟨firstA, restA⟩ := List.pairwise_cons.1 ascendingLeft
      obtain ⟨firstB, restB⟩ := List.pairwise_cons.1 ascendingRight
      rcases Text.earlier_or_eq_or_earlier a.1 b.1 with less | equal | greater
      · have absent := find?_eq_none_of_earlier a.1 (b :: others)
          fun entry member => by
            rcases List.mem_cons.1 member with here | there
            · exact here ▸ less
            · exact less.trans (firstB entry there)
        have found := same a.1
        rw [absent] at found
        simp at found
      · have head : a = b := by
          have found := same a.1
          simpa [equal] using found
        subst head
        refine congrArg (a :: ·) (ih restA restB fun key => ?_)
        by_cases here : a.1 = key
        · subst here
          rw [find?_eq_none_of_earlier _ _ firstA, find?_eq_none_of_earlier _ _ firstB]
        · simpa [here] using same key
      · have absent := find?_eq_none_of_earlier b.1 (a :: rest)
          fun entry member => by
            rcases List.mem_cons.1 member with here | there
            · exact here ▸ greater
            · exact greater.trans (firstA entry there)
        have found := same b.1
        rw [absent] at found
        simp at found

/-- Tables that look up alike are equal. -/
theorem ext_find? {left right : Table β} (same : ∀ key, left.find? key = right.find? key) :
    left = right := by
  have entries : left.entries = right.entries := by
    refine entries_eq_of_find? left.ascending right.ascending fun key => ?_
    have found := same key
    unfold find? at found
    cases inLeft : left.entries.find? fun entry => decide (entry.1 = key) with
    | none => cases inRight : right.entries.find? fun entry => decide (entry.1 = key) with
      | none => rfl
      | some b => simp [inLeft, inRight] at found
    | some a => cases inRight : right.entries.find? fun entry => decide (entry.1 = key) with
      | none => simp [inLeft, inRight] at found
      | some b =>
        have keyA : a.1 = key := by simpa using List.find?_some inLeft
        have keyB : b.1 = key := by simpa using List.find?_some inRight
        have value : a.2 = b.2 := by simpa [inLeft, inRight] using found
        exact congrArg some (Prod.ext (keyA.trans keyB.symm) value)
  cases left
  cases right
  cases entries
  rfl

theorem insert_insert (table : Table β) (key : Key) (first last : β) :
    (table.insert key first).insert key last = table.insert key last := by
  apply ext_find?
  intro other
  rw [find?_insert, find?_insert, find?_insert]
  split <;> rfl

theorem insert_of_find? {table : Table β} {key : Key} {value : β}
    (found : table.find? key = some value) : table.insert key value = table := by
  apply ext_find?
  intro other
  rw [find?_insert]
  split
  case isTrue same => rw [← same, found]
  case isFalse => rfl

def on (table : Table β) (database : String) : Table β where
  entries := table.entries.filter fun entry => decide (entry.1.1 = database)
  ascending := table.ascending.filter _

theorem find?_on (table : Table β) (database : String) (key : Key) :
    (table.on database).find? key = if key.1 = database then table.find? key else none := by
  unfold find? on
  rw [List.find?_filter]
  split
  case isTrue here =>
    congr 2
    funext entry
    by_cases same : entry.1 = key
    · simp [same, here]
    · simp [same]
  case isFalse elsewhere =>
    rw [List.find?_eq_none.2, Option.map_none]
    intro entry _ found
    obtain ⟨there, same⟩ : entry.1.1 = database ∧ entry.1 = key := by simpa using found
    exact elsewhere (same ▸ there)

theorem mem_names_iff {table : Table β} {database name : String} :
    name ∈ table.names database ↔ table.contains (database, name) = true := by
  simp [names, contains, find?, List.find?_isSome, Prod.ext_iff, and_assoc]

theorem names_nodup (table : Table β) (database : String) : (table.names database).Nodup := by
  have ascending := (table.on database).ascending
  refine List.pairwise_map.2 (ascending.imp_of_mem ?_)
  intro left right inLeft inRight earlier same
  have homeLeft : left.1.1 = database := by simpa using (List.mem_filter.1 inLeft).2
  have homeRight : right.1.1 = database := by simpa using (List.mem_filter.1 inRight).2
  rw [Prod.ext (homeLeft.trans homeRight.symm) same] at earlier
  exact Text.earlier_irrefl _ earlier

theorem names_congr {left right : Table β} {database : String}
    (same : ∀ name, left.find? (database, name) = right.find? (database, name)) :
    left.names database = right.names database := by
  have parts : left.on database = right.on database := by
    apply ext_find?
    rintro ⟨home, name⟩
    rw [find?_on, find?_on]
    split
    case isTrue here =>
      obtain rfl : home = database := here
      exact same name
    case isFalse => rfl
  exact congrArg (fun part : Table β => part.entries.map fun entry => entry.1.2) parts

end Table

end Provision
