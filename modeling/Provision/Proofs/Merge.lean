import Provision.Cluster
/-!
Putting together what two sides made of one start.

Where only one side changed an entry, its change counts; an entry that no side changed stays. So
what is put together is determined by the start and the two sides, as long as each entry was changed
by one side at most. What is only counted adds up.
-/

namespace Provision

/-- Of two sides with the same start at least one left every entry alone, and the other one's entry
is taken. -/
def Table.Joined {β : Type} (start one two joined : Table β) : Prop :=
  ∀ key, (one.find? key = start.find? key ∧ joined.find? key = two.find? key) ∨
    (two.find? key = start.find? key ∧ joined.find? key = one.find? key)

namespace Table.Joined

variable {β : Type} {start one two joined other : Table β} {key : Key}

theorem refl (start : Table β) : Joined start start start start :=
  fun _ => .inl ⟨rfl, rfl⟩

theorem symm (join : Joined start one two joined) : Joined start two one joined :=
  fun key => (join key).symm

theorem eq_first (join : Joined start one two joined)
    (kept : two.find? key = start.find? key) : joined.find? key = one.find? key := by
  rcases join key with ⟨unchanged, taken⟩ | ⟨-, taken⟩
  · rw [taken, kept, unchanged]
  · exact taken

theorem unique (join : Joined start one two joined) (again : Joined start one two other) :
    joined = other := by
  apply Table.ext_find?
  intro key
  by_cases kept : two.find? key = start.find? key
  · exact (join.eq_first kept).trans (again.eq_first kept).symm
  · have taken := (join key).resolve_right fun second => kept second.1
    have retaken := (again key).resolve_right fun second => kept second.1
    exact taken.2.trans retaken.2.symm

/-- An entry that the second side left alone can be set by the first side. -/
theorem insert (join : Joined start one two joined) (kept : two.find? key = start.find? key)
    (value : β) : Joined start (one.insert key value) two (joined.insert key value) := by
  intro other
  rw [Table.find?_insert, Table.find?_insert]
  by_cases here : key = other
  · rw [if_pos here, if_pos here]
    exact .inr ⟨here ▸ kept, rfl⟩
  · rw [if_neg here, if_neg here]
    exact join other

end Table.Joined

namespace Cluster

structure Merged (start one two merged : Cluster) : Prop where
  users : Table.Joined start.users one.users two.users merged.users
  collections : Table.Joined start.collections one.collections two.collections merged.collections
  faults : merged.faults = start.faults
  openSessions : merged.openSessions + start.openSessions = one.openSessions + two.openSessions
  writes : merged.writes + start.writes = one.writes + two.writes

namespace Merged

variable {start one two merged other : Cluster}

theorem refl (start : Cluster) : Merged start start start start :=
  ⟨.refl _, .refl _, rfl, rfl, rfl⟩

theorem symm (merge : Merged start one two merged) : Merged start two one merged :=
  ⟨merge.users.symm, merge.collections.symm, merge.faults,
    merge.openSessions.trans (Nat.add_comm ..), merge.writes.trans (Nat.add_comm ..)⟩

theorem unique (merge : Merged start one two merged) (again : Merged start one two other) :
    merged = other := by
  have users := merge.users.unique again.users
  have collections := merge.collections.unique again.collections
  have faults := merge.faults.trans again.faults.symm
  have openSessions := Nat.add_right_cancel (merge.openSessions.trans again.openSessions.symm)
  have writes := Nat.add_right_cancel (merge.writes.trans again.writes.symm)
  cases merged
  cases other
  congr

end Merged

end Cluster

end Provision
