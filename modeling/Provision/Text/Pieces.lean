/-!
Cutting texts at a separator.
-/

namespace Provision.Text

/-- Cuts at every separator, so that n separators give n + 1 pieces, empty ones included. -/
def pieces (separator : Char) : List Char → List (List Char)
  | [] => [[]]
  | c :: rest =>
    if c = separator then [] :: pieces separator rest
    else match pieces separator rest with
      | [] => [[c]]
      | first :: others => (c :: first) :: others

def cutAt (separator : Char) : List Char → Option (List Char × List Char)
  | [] => none
  | c :: rest =>
    if c = separator then some ([], rest)
    else (cutAt separator rest).map fun (before, after) => (c :: before, after)

theorem pieces_ne_nil (separator : Char) (cs : List Char) : pieces separator cs ≠ [] := by
  cases cs with
  | nil => simp [pieces]
  | cons c rest =>
    by_cases here : c = separator
    · simp [pieces, here]
    · cases found : pieces separator rest <;> simp [pieces, here, found]

theorem pieces_eq_splitOn (separator : Char) (cs : List Char) :
    pieces separator cs = cs.splitOn separator := by
  induction cs with
  | nil => rfl
  | cons c rest ih =>
    rw [List.splitOn_cons_eq_if_modifyHead, ← ih]
    by_cases here : c = separator
    · simp [pieces, here]
    · obtain ⟨first, others, found⟩ := List.exists_cons_of_ne_nil (pieces_ne_nil separator rest)
      simp [pieces, here, found]

theorem not_mem_of_mem_pieces {separator : Char} {cs piece : List Char}
    (member : piece ∈ pieces separator cs) : separator ∉ piece := by
  induction cs generalizing piece with
  | nil =>
    obtain rfl := List.mem_singleton.1 member
    exact List.not_mem_nil
  | cons c rest ih =>
    by_cases here : c = separator
    · rcases List.mem_cons.1 (by simpa [pieces, here] using member) with rfl | later
      · exact List.not_mem_nil
      · exact ih later
    · obtain ⟨first, others, found⟩ := List.exists_cons_of_ne_nil (pieces_ne_nil separator rest)
      simp only [pieces, here, ↓reduceIte, found] at member ih
      rcases List.mem_cons.1 member with rfl | later
      · exact List.not_mem_cons_of_ne_of_not_mem (Ne.symm here) (ih List.mem_cons_self)
      · exact ih (List.mem_cons_of_mem _ later)

theorem cutAt_eq_some {separator : Char} {cs before after : List Char}
    (cut : cutAt separator cs = some (before, after)) :
    cs = before ++ separator :: after ∧ separator ∉ before := by
  induction cs generalizing before with
  | nil => simp [cutAt] at cut
  | cons c rest ih =>
    by_cases here : c = separator
    · simp [cutAt, here] at cut
      obtain ⟨rfl, rfl⟩ := cut
      simp [here]
    · simp [cutAt, here] at cut
      obtain ⟨inner, found, rfl⟩ := cut
      obtain ⟨whole, absent⟩ := ih found
      simp [whole, absent, Ne.symm here]

theorem cutAt_append {separator : Char} {before : List Char} (absent : separator ∉ before)
    (after : List Char) :
    cutAt separator (before ++ separator :: after) = some (before, after) := by
  induction before with
  | nil => simp [cutAt]
  | cons c rest ih =>
    obtain ⟨here, later⟩ := not_or.1 (mt List.mem_cons.2 absent)
    simp [cutAt, Ne.symm here, ih later]

end Provision.Text
