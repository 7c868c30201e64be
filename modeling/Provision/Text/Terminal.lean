import Provision.Text.Quoted
/-!
Texts that are safe to show on a terminal.

A terminal takes some controls as the start of a command. They are written as escapes, so that a
text can neither move the cursor nor change colours; tabs, line ends and the harmless controls stay.
-/

namespace Provision.Text

/-- The single-byte controls that a terminal acts on: bell, backspace, form feed, escape and
delete. -/
def commandControls : List Char :=
  ['\x07', '\x08', '\x0c', '\x1b', '\x7f']

/-- The controls from U+0080 to U+009F, which start commands on their own. -/
def isSecondaryControl (c : Char) : Bool :=
  0x80 ≤ c.toNat && c.toNat ≤ 0x9f

def isTerminalCommand (c : Char) : Bool :=
  c ∈ commandControls || isSecondaryControl c

def twoDigits (c : Char) : List Char :=
  ['\\', 'x', Nat.digitChar (c.toNat / 16), Nat.digitChar (c.toNat % 16)]

def disarm (c : Char) : List Char :=
  if c ∈ commandControls then twoDigits c
  else if isSecondaryControl c then codePoint c
  else [c]

def disarmed (s : String) : String :=
  String.ofList (s.toList.flatMap disarm)

theorem isTerminalCommand_of_printing {c : Char} (low : 0x20 ≤ c.toNat) (high : c.toNat < 0x7f) :
    isTerminalCommand c = false := by
  have absent : c ∉ commandControls := by
    intro member
    simp only [commandControls, List.mem_cons, List.not_mem_nil, or_false] at member
    rcases member with rfl | rfl | rfl | rfl | rfl <;> simp at low high
  have primary : isSecondaryControl c = false := by
    simp only [isSecondaryControl, Bool.and_eq_false_iff, decide_eq_false_iff_not]
    omega
  simp [isTerminalCommand, absent, primary]

theorem digitChar_printing {n : Nat} (small : n < 16) :
    0x20 ≤ (Nat.digitChar n).toNat ∧ (Nat.digitChar n).toNat < 0x7f := by
  have every : ∀ k : Fin 16, 0x20 ≤ (Nat.digitChar k.val).toNat ∧
      (Nat.digitChar k.val).toNat < 0x7f := by
    decide
  exact every ⟨n, small⟩

theorem escaped_isTerminalCommand (lead tail : List Char) {n : Nat} {d : Char} (small : n < 0x100)
    (leading : ∀ c ∈ lead ++ tail, 0x20 ≤ c.toNat ∧ c.toNat < 0x7f)
    (member : d ∈ lead ++ [Nat.digitChar (n / 16), Nat.digitChar (n % 16)] ++ tail) :
    isTerminalCommand d = false := by
  have printing : 0x20 ≤ d.toNat ∧ d.toNat < 0x7f := by
    simp only [List.mem_append, List.mem_cons, List.not_mem_nil, or_false] at member
    rcases member with (inLead | rfl | rfl) | inTail
    · exact leading d (List.mem_append_left _ inLead)
    · exact digitChar_printing (by omega)
    · exact digitChar_printing (by omega)
    · exact leading d (List.mem_append_right _ inTail)
  exact isTerminalCommand_of_printing printing.1 printing.2

theorem codePoint_of_isSecondaryControl {c : Char} (secondary : isSecondaryControl c = true) :
    codePoint c = ['\\', 'u', '\x7b']
      ++ [Nat.digitChar (c.toNat / 16), Nat.digitChar (c.toNat % 16)] ++ ['\x7d'] := by
  simp only [isSecondaryControl, Bool.and_eq_true, decide_eq_true_eq] at secondary
  rw [codePoint, Nat.toDigits_of_base_le (by decide) (by omega),
    Nat.toDigits_of_lt_base (by omega)]
  rfl

/-- Nothing that a terminal acts on is left. -/
theorem disarmed_isTerminalCommand {s : String} {d : Char} (member : d ∈ (disarmed s).toList) :
    isTerminalCommand d = false := by
  simp only [disarmed, String.toList_ofList, List.mem_flatMap] at member
  obtain ⟨c, _, inner⟩ := member
  unfold disarm at inner
  split at inner
  next command =>
    have small : c.toNat < 0x100 := by
      simp only [commandControls, List.mem_cons, List.not_mem_nil, or_false] at command
      rcases command with rfl | rfl | rfl | rfl | rfl <;> decide
    exact escaped_isTerminalCommand ['\\', 'x'] [] small (by simp) inner
  next harmless =>
    split at inner
    next secondary =>
      have small : c.toNat < 0x100 := by
        simp only [isSecondaryControl, Bool.and_eq_true, decide_eq_true_eq] at secondary
        omega
      rw [codePoint_of_isSecondaryControl secondary] at inner
      exact escaped_isTerminalCommand _ _ small (by simp) inner
    next primary =>
      obtain rfl := List.mem_singleton.1 inner
      simp [isTerminalCommand, harmless, primary]

end Provision.Text
