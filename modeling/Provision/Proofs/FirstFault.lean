/-!
The first fault of a list of things that are checked in turn.

A check that stops at the first fault tells nothing about what comes later. Checks in a row report
what one check of all their things in a row reports.
-/

namespace Provision

inductive FirstFault {ι φ : Type} (faulty : ι → φ → Prop) : List ι → φ → Prop
  | here {item : ι} {rest : List ι} {fault : φ} (found : faulty item fault) :
      FirstFault faulty (item :: rest) fault
  | later {item : ι} {rest : List ι} {fault : φ} (clear : ∀ other, ¬faulty item other)
      (behind : FirstFault faulty rest fault) : FirstFault faulty (item :: rest) fault

variable {ι φ α β : Type} {faulty : ι → φ → Prop} {item : ι} {items others : List ι} {fault : φ}

namespace FirstFault

theorem not_nil : ¬FirstFault faulty [] fault := nofun

theorem cons_iff : FirstFault faulty (item :: others) fault ↔
    faulty item fault ∨ (∀ other, ¬faulty item other) ∧ FirstFault faulty others fault := by
  constructor
  · rintro (found | ⟨clear, behind⟩)
    · exact .inl found
    · exact .inr ⟨clear, behind⟩
  · rintro (found | ⟨clear, behind⟩)
    · exact .here found
    · exact .later clear behind

theorem exists_iff :
    (∃ fault, FirstFault faulty items fault) ↔ ∃ item ∈ items, ∃ fault, faulty item fault := by
  induction items with
  | nil => simp [not_nil]
  | cons item rest ih =>
    simp only [cons_iff, exists_or, exists_and_left, ih, List.mem_cons, or_and_right,
      exists_eq_left]
    by_cases struck : ∃ other, faulty item other
    · simp [struck]
    · simp [not_exists.1 struck]

theorem append_iff : FirstFault faulty (items ++ others) fault ↔
    FirstFault faulty items fault ∨
      (∀ other, ¬FirstFault faulty items other) ∧ FirstFault faulty others fault := by
  induction items with
  | nil => simp [not_nil]
  | cons item rest ih =>
    simp only [List.cons_append, cons_iff, ih]
    by_cases struck : ∃ other, faulty item other
    · obtain ⟨other, found⟩ := struck
      have unclear : ¬∀ other, ¬faulty item other := fun clear => clear other found
      simp only [unclear, false_and, or_false]
    · simp [not_exists.1 struck]

end FirstFault

/-- A check fails exactly with the first fault of some things. -/
def Checks (faulty : ι → φ → Prop) (items : List ι) (check : Except φ α) : Prop :=
  ∀ fault, check = .error fault ↔ FirstFault faulty items fault

namespace Checks

theorem ok (value : α) : Checks faulty [] (.ok value : Except φ α) :=
  fun _ => ⟨nofun, nofun⟩

theorem single {check : Except φ α}
    (checks : ∀ fault, check = .error fault ↔ faulty item fault) :
    Checks faulty [item] check := by
  intro fault
  simp only [checks, FirstFault.cons_iff, FirstFault.not_nil, and_false, or_false]

theorem bind {check : Except φ α} {next : α → Except φ β} (first : Checks faulty items check)
    (second : ∀ value, check = .ok value → Checks faulty others (next value)) :
    Checks faulty (items ++ others) (check >>= next) := by
  intro fault
  rw [FirstFault.append_iff]
  cases checked : check with
  | error found =>
    have struck : FirstFault faulty items found := (first found).1 checked
    have unclear : ¬∀ other, ¬FirstFault faulty items other := fun clear => clear found struck
    rw [← first fault, checked]
    change (.error found : Except φ β) = .error fault ↔ _
    simp only [unclear, false_and, or_false, Except.error.injEq]
  | ok value =>
    have clear : ∀ other, ¬FirstFault faulty items other := by
      intro other struck
      rw [← first other, checked] at struck
      cases struck
    rw [← second value checked fault]
    simp only [clear, not_false_eq_true, implies_true, true_and, false_or]
    rfl

theorem exists_ok_iff {check : Except φ α} (checks : Checks faulty items check) :
    (∃ value, check = .ok value) ↔ ∀ item ∈ items, ∀ fault, ¬faulty item fault := by
  have failing : (∃ fault, check = .error fault) ↔ ∃ item ∈ items, ∃ fault, faulty item fault := by
    rw [← FirstFault.exists_iff]
    exact exists_congr checks
  have passing : (∃ value, check = .ok value) ↔ ¬∃ fault, check = .error fault := by
    cases check <;> simp
  rw [passing, failing]
  simp only [not_exists, not_and]

end Checks

end Provision
