/-!
The order of texts and of pairs of texts.

Texts are ordered by code point, pairs by their first text and then by their second. Both orders
are total, so a sorted list is determined by what it holds.
-/

namespace Provision.Text

def sorted (texts : List String) : List String :=
  texts.mergeSort fun left right => decide (left ≤ right)

def Earlier (left right : String × String) : Prop :=
  left.1 < right.1 ∨ left.1 = right.1 ∧ left.2 < right.2

instance (left right : String × String) : Decidable (Earlier left right) :=
  inferInstanceAs (Decidable (_ ∨ _))

theorem earlier_irrefl (pair : String × String) : ¬Earlier pair pair := by
  rintro (first | ⟨_, second⟩)
  · exact String.lt_irrefl _ first
  · exact String.lt_irrefl _ second

theorem Earlier.trans {a b c : String × String} (ab : Earlier a b) (bc : Earlier b c) :
    Earlier a c := by
  rcases ab with first | ⟨same, second⟩ <;> rcases bc with first' | ⟨same', second'⟩
  · exact .inl (String.lt_trans first first')
  · exact .inl (same' ▸ first)
  · exact .inl (same ▸ first')
  · exact .inr ⟨same.trans same', String.lt_trans second second'⟩

theorem lt_or_eq_or_lt (left right : String) : left < right ∨ left = right ∨ right < left := by
  by_cases less : left < right
  · exact .inl less
  · by_cases greater : right < left
    · exact .inr (.inr greater)
    · exact .inr (.inl (String.le_antisymm (String.not_lt.1 greater) (String.not_lt.1 less)))

theorem earlier_or_eq_or_earlier (left right : String × String) :
    Earlier left right ∨ left = right ∨ Earlier right left := by
  rcases lt_or_eq_or_lt left.1 right.1 with less | same | greater
  · exact .inl (.inl less)
  · rcases lt_or_eq_or_lt left.2 right.2 with less | same' | greater
    · exact .inl (.inr ⟨same, less⟩)
    · exact .inr (.inl (Prod.ext same same'))
    · exact .inr (.inr (.inr ⟨same.symm, greater⟩))
  · exact .inr (.inr (.inl greater))

theorem sorted_perm (texts : List String) : (sorted texts).Perm texts :=
  List.mergeSort_perm _ _

theorem sorted_eq_nil_iff {texts : List String} : sorted texts = [] ↔ texts = [] := by
  rw [← List.perm_nil, ← List.perm_nil]
  exact (sorted_perm texts).congr_left []

theorem pairwise_sorted (texts : List String) : (sorted texts).Pairwise (· ≤ ·) := by
  have ordered := @List.pairwise_mergeSort _ (fun left right : String => decide (left ≤ right))
    (fun a b c => by simpa using String.le_trans) (fun a b => by simpa using String.le_total a b)
    texts
  simpa [sorted] using ordered

theorem head?_sorted_eq_some_iff {texts : List String} {least : String} :
    (sorted texts).head? = some least ↔ least ∈ texts ∧ ∀ text ∈ texts, least ≤ text := by
  have members : ∀ text, text ∈ texts ↔ text ∈ sorted texts :=
    fun _ => (sorted_perm texts).mem_iff.symm
  have ordered := pairwise_sorted texts
  simp only [members]
  generalize sorted texts = ascending at ordered
  cases ascending with
  | nil => simp
  | cons first rest =>
    have lowest : ∀ text ∈ first :: rest, first ≤ text := by
      intro text member
      rcases List.mem_cons.1 member with here | later
      · exact here ▸ String.le_refl _
      · exact (List.pairwise_cons.1 ordered).1 text later
    constructor
    · intro head
      obtain rfl : first = least := Option.some.inj head
      exact ⟨List.mem_cons_self, lowest⟩
    · rintro ⟨member, below⟩
      exact congrArg some <|
        String.le_antisymm (lowest least member) (below first List.mem_cons_self)

/-- Sorting forgets the order the texts came in. -/
theorem sorted_eq_of_perm {left right : List String} (same : left.Perm right) :
    sorted left = sorted right :=
  List.Perm.eq_of_pairwise (fun _ _ _ _ => String.le_antisymm) (pairwise_sorted left)
    (pairwise_sorted right) (((sorted_perm left).trans same).trans (sorted_perm right).symm)

end Provision.Text
