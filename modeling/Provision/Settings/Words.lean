/-!
Reading single settings: port numbers, switches and marker modes.
-/

namespace Provision

namespace Text

/-- Lower case for the letters A to Z; every other character stays. -/
def lowered (s : String) : String :=
  s.map Char.toLower

def natural (cs : List Char) : Option Nat :=
  if cs.isEmpty || !cs.all Char.isDigit then none
  else some (cs.foldl (fun value c => 10 * value + (c.toNat - '0'.toNat)) 0)

/-- A number in decimal digits, after a plus sign or not. -/
def unsigned (s : String) : Option Nat :=
  match s.toList with
  | '+' :: digits => natural digits
  | digits => natural digits

end Text

def readPortNumber (text : String) : Option UInt16 :=
  match Text.unsigned text with
  | none => none
  | some value => if value < UInt16.size then some (UInt16.ofNat value) else none

def readSwitch (word : String) : Option Bool :=
  if word ∈ ["1", "true", "yes", "on"] then some true
  else if word ∈ ["0", "false", "no", "off"] then some false
  else none

inductive MarkerMode where
  | skip
  | seed
deriving DecidableEq

def MarkerMode.word : MarkerMode → String
  | .skip => "skip"
  | .seed => "seed"

def MarkerMode.ofWord (word : String) : Option MarkerMode :=
  if word = "skip" then some .skip else if word = "seed" then some .seed else none

theorem MarkerMode.ofWord_word (mode : MarkerMode) : ofWord mode.word = some mode := by
  cases mode <;> decide

end Provision
