/-!
Lists without repetitions.
-/

namespace Provision

def distinct {α : Type} [DecidableEq α] : List α → List α
  | [] => []
  | first :: rest => first :: (distinct rest).filter (· ≠ first)

variable {α : Type} [DecidableEq α]

theorem mem_distinct {x : α} {xs : List α} : x ∈ distinct xs ↔ x ∈ xs := by
  induction xs with
  | nil => simp [distinct]
  | cons first rest ih =>
    by_cases same : x = first <;> simp [distinct, same, ih]

/-- The first occurrences in a list: all that occurs in it, in the order of where it first does. -/
structure FirstOccurrences (all kept : List α) : Prop where
  members : ∀ x, x ∈ kept ↔ x ∈ all
  ordered : kept.Pairwise fun x y => all.idxOf x < all.idxOf y

theorem distinct_firstOccurrences (xs : List α) : FirstOccurrences xs (distinct xs) := by
  refine ⟨fun x => mem_distinct, ?_⟩
  induction xs with
  | nil => exact .nil
  | cons first rest ih =>
    have shifted : ∀ x, x ≠ first → (first :: rest).idxOf x = rest.idxOf x + 1 := by
      intro x differs
      have here : (first == x) = false := by simpa using Ne.symm differs
      rw [List.idxOf_cons, here, cond_false]
    have others : ∀ x ∈ (distinct rest).filter (· ≠ first), x ≠ first := by simp
    refine .cons (fun x member => ?_) ((ih.filter _).imp_of_mem fun {x y} inX inY earlier => ?_)
    · rw [shifted x (others x member)]
      simp
    · rw [shifted x (others x inX), shifted y (others y inY)]
      exact Nat.succ_lt_succ earlier

variable {all kept other : List α}

theorem FirstOccurrences.nodup (first : FirstOccurrences all kept) : kept.Nodup := by
  refine first.ordered.imp ?_
  rintro x _ earlier rfl
  exact Nat.lt_irrefl _ earlier

theorem FirstOccurrences.unique (first : FirstOccurrences all kept)
    (again : FirstOccurrences all other) : kept = other := by
  have same : kept.Perm other := (List.perm_ext_iff_of_nodup first.nodup again.nodup).2 fun x =>
    (first.members x).trans (again.members x).symm
  exact same.eq_of_pairwise (fun x y _ _ less more => absurd less (Nat.lt_asymm more))
    first.ordered again.ordered

theorem distinct_of_nodup {xs : List α} (nodup : xs.Nodup) : distinct xs = xs := by
  induction xs with
  | nil => rfl
  | cons first rest ih =>
    obtain ⟨fresh, others⟩ := List.nodup_cons.1 nodup
    have kept : rest.filter (· ≠ first) = rest := by
      apply List.filter_eq_self.2
      intro x member
      simpa using fun same : x = first => fresh (same ▸ member)
    rw [distinct, ih others, kept]

end Provision
