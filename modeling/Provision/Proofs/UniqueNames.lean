import Mathlib
import Provision.Unique
/-!
Names with one label collide only if the bits behind them do, and what follows the label in the name
of a database needs no quoting anywhere.
-/

namespace Provision

namespace Ulid

theorem length_writeDigits (count value : Nat) : (writeDigits count value).length = count := by
  induction count generalizing value with
  | zero => rfl
  | succ count ih => simp [writeDigits, ih]

theorem mem_digits_of_mem_writeDigits {count value : Nat} {c : Char}
    (member : c ∈ writeDigits count value) : c ∈ digits := by
  induction count generalizing value with
  | zero => cases member
  | succ count ih =>
    rcases List.mem_append.1 member with earlier | last
    · exact ih earlier
    · have within : value % 32 < digits.length := Nat.mod_lt _ (by decide)
      rw [List.mem_singleton.1 last, List.getD_eq_getElem _ _ within]
      exact List.getElem_mem within

/-- A number is read back from its digits, and also from other signs for them if these differ. -/
theorem eq_of_map_writeDigits {sign : Char → Char} (distinct : (digits.map sign).Nodup)
    {count value other : Nat} (fits : value < 32 ^ count) (otherFits : other < 32 ^ count)
    (same : (writeDigits count value).map sign = (writeDigits count other).map sign) :
    value = other := by
  induction count generalizing value other with
  | zero =>
    rw [Nat.pow_zero] at fits otherFits
    omega
  | succ count ih =>
    rw [Nat.pow_succ] at fits otherFits
    simp only [writeDigits, List.map_append, List.map_cons, List.map_nil] at same
    obtain ⟨earlier, last⟩ := List.append_inj' same rfl
    have tails : value / 32 = other / 32 := ih (by omega) (by omega) earlier
    have within (number : Nat) : number % 32 < digits.length := Nat.mod_lt _ (by decide)
    rw [List.getD_eq_getElem _ _ (within value), List.getD_eq_getElem _ _ (within other)] at last
    have first : value % 32 < (digits.map sign).length := by simpa using within value
    have second : other % 32 < (digits.map sign).length := by simpa using within other
    have signs : (digits.map sign)[value % 32] = (digits.map sign)[other % 32] := by
      simpa using last
    have heads : value % 32 = other % 32 := distinct.getElem_inj_iff.1 signs
    omega

theorem value_eq_iff {ulid other : Ulid} : ulid.value = other.value ↔
    ulid.milliseconds.toNat % 2 ^ 48 = other.milliseconds.toNat % 2 ^ 48 ∧
      ulid.random % 2 ^ 80 = other.random % 2 ^ 80 := by
  have noise (number : Nat) : number % 2 ^ 80 < 2 ^ 80 := Nat.mod_lt _ (by decide)
  have first := noise ulid.random
  have second := noise other.random
  unfold value
  simp only [Nat.shiftLeft_eq, Nat.one_mul]
  omega

theorem value_lt (ulid : Ulid) : ulid.value < 32 ^ 26 := by
  have time : ulid.milliseconds.toNat % (1 <<< 48) < 2 ^ 48 := Nat.mod_lt _ (by decide)
  have noise : ulid.random % (1 <<< 80) < 2 ^ 80 := Nat.mod_lt _ (by decide)
  unfold value
  rw [Nat.shiftLeft_eq]
  omega

end Ulid

section

variable {label : String} {ulid other : Ulid}

theorem uniqueName_eq_iff :
    uniqueName label ulid = uniqueName label other ↔ ulid.value = other.value := by
  constructor
  · intro same
    have chars := congrArg String.toList same
    simp only [uniqueName, Ulid.written, String.toList_append, String.toList_ofList,
      List.append_cancel_left_eq] at chars
    have distinct : (Ulid.digits.map id).Nodup := by decide
    apply Ulid.eq_of_map_writeDigits distinct ulid.value_lt other.value_lt
    rw [chars]
  · intro same
    rw [uniqueName, Ulid.written, same]
    rfl

/-- Lower case tells the digits apart as well as upper case does. -/
theorem uniqueDatabase_eq_iff :
    uniqueDatabase label ulid = uniqueDatabase label other ↔ ulid.value = other.value := by
  constructor
  · intro same
    have chars := congrArg String.toList same
    simp only [uniqueDatabase, Ulid.written, String.toList_append, String.toList_map,
      String.toList_ofList, List.append_cancel_left_eq] at chars
    have distinct : (Ulid.digits.map Char.toLower).Nodup := by decide
    exact Ulid.eq_of_map_writeDigits distinct ulid.value_lt other.value_lt chars
  · intro same
    rw [uniqueDatabase, Ulid.written, same]
    rfl

theorem length_uniqueDatabase (label : String) (ulid : Ulid) :
    (uniqueDatabase label ulid).length = label.length + 27 := by
  simp [uniqueDatabase, Ulid.written, ← String.length_toList, Ulid.length_writeDigits]

theorem mem_uniqueDatabase {c : Char} (member : c ∈ (uniqueDatabase label ulid).toList) :
    c ∈ label.toList ∨ c = '_' ∨ c.isLower = true ∨ c.isDigit = true := by
  have small : Ulid.digits.all (fun digit => digit.toLower.isLower || digit.toLower.isDigit) =
      true := by decide
  simp only [uniqueDatabase, Ulid.written, String.toList_append, String.toList_map,
    String.toList_ofList, List.mem_append, List.mem_map] at member
  rcases member with (labelled | underscore) | ⟨digit, written, lowered⟩
  · exact .inl labelled
  · exact .inr (.inl (by simpa using underscore))
  · have kind := List.all_eq_true.1 small digit (Ulid.mem_digits_of_mem_writeDigits written)
    rw [lowered, Bool.or_eq_true] at kind
    exact .inr (.inr kind)

end

end Provision
