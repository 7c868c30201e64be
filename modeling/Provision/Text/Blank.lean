/-!
Blank characters and trimming.

A character is blank when it has the Unicode property White_Space. Trimming drops the blanks at
both ends and nothing else; a text is blank when nothing is left of it.
-/

namespace Provision.Text

def blankRanges : List (Nat × Nat) :=
  [(0x9, 0xd), (0x20, 0x20), (0x85, 0x85), (0xa0, 0xa0), (0x1680, 0x1680), (0x2000, 0x200a),
    (0x2028, 0x2029), (0x202f, 0x202f), (0x205f, 0x205f), (0x3000, 0x3000)]

def isBlank (c : Char) : Bool :=
  blankRanges.any fun (first, last) => first ≤ c.toNat && c.toNat ≤ last

def trimChars (cs : List Char) : List Char :=
  ((cs.dropWhile isBlank).reverse.dropWhile isBlank).reverse

def trim (s : String) : String :=
  String.ofList (trimChars s.toList)

/-- Holds of a text with no character but blanks, the empty text among them. -/
def isBlankText (s : String) : Bool :=
  s.toList.all isBlank

theorem isEmpty_of_isBlankText {s : String} (solid : isBlankText s = false) :
    s.isEmpty = false := by
  cases empty : s.isEmpty with
  | false => rfl
  | true =>
    obtain rfl := String.isEmpty_iff.1 empty
    simp [isBlankText] at solid

theorem dropWhile_eq_nil_iff {cs : List Char} :
    cs.dropWhile isBlank = [] ↔ cs.all isBlank = true := by
  induction cs with
  | nil => simp
  | cons c rest ih => cases blank : isBlank c <;> simp_all

theorem trimChars_eq_nil_iff {cs : List Char} : trimChars cs = [] ↔ cs.all isBlank = true := by
  unfold trimChars
  rw [List.reverse_eq_nil_iff, dropWhile_eq_nil_iff, List.all_reverse]
  constructor
  · intro rest
    rw [← List.takeWhile_append_dropWhile (p := isBlank) (l := cs), List.all_append, rest]
    simp
  · intro all
    rw [dropWhile_eq_nil_iff.2 all]
    rfl

def Trimmed (cs : List Char) : Prop :=
  (∀ c, cs.head? = some c → isBlank c = false) ∧ ∀ c, cs.getLast? = some c → isBlank c = false

theorem Trimmed.reverse {cs : List Char} (trimmed : Trimmed cs) : Trimmed cs.reverse :=
  ⟨fun c first => trimmed.2 c (by simpa using first),
    fun c last => trimmed.1 c (by simpa using last)⟩

theorem dropWhile_of_trimmed {cs : List Char} (trimmed : Trimmed cs) :
    cs.dropWhile isBlank = cs := by
  cases cs with
  | nil => rfl
  | cons c rest => simp [trimmed.1 c rfl]

theorem trimChars_of_trimmed {cs : List Char} (trimmed : Trimmed cs) : trimChars cs = cs := by
  unfold trimChars
  rw [dropWhile_of_trimmed trimmed, dropWhile_of_trimmed trimmed.reverse, List.reverse_reverse]

theorem not_isBlank_of_head?_dropWhile {cs : List Char} {c : Char}
    (first : (cs.dropWhile isBlank).head? = some c) : isBlank c = false := by
  have solid := List.head?_dropWhile_not isBlank cs
  rwa [first] at solid

theorem trimmed_trimChars (cs : List Char) : Trimmed (trimChars cs) := by
  constructor
  · -- Dropping blanks at the end leaves the first character, which is none of them.
    intro c first
    have kept : trimChars cs <+: cs.dropWhile isBlank := by
      rw [trimChars, ← List.reverse_suffix, List.reverse_reverse]
      exact List.dropWhile_suffix isBlank
    obtain ⟨rest, whole⟩ := kept
    have head : (cs.dropWhile isBlank).head? = some c := by
      rw [← whole, List.head?_append, first]
      rfl
    exact not_isBlank_of_head?_dropWhile head
  · intro c last
    rw [trimChars, List.getLast?_reverse] at last
    exact not_isBlank_of_head?_dropWhile last

theorem trimmed_iff {cs : List Char} : Trimmed cs ↔ trimChars cs = cs :=
  ⟨trimChars_of_trimmed, fun same => same ▸ trimmed_trimChars cs⟩

theorem mem_of_mem_trimChars {cs : List Char} {c : Char} (member : c ∈ trimChars cs) : c ∈ cs := by
  rw [trimChars, List.mem_reverse] at member
  have inside := (List.dropWhile_sublist isBlank).subset member
  exact (List.dropWhile_sublist isBlank).subset (List.mem_reverse.1 inside)

end Provision.Text
