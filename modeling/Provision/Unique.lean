/-!
Names that do not collide.

A ULID is 128 bits, 48 of them a time in milliseconds and 80 random, written as 26 digits of
Crockford's base 32, which has no I, L, O or U.
-/

namespace Provision

structure Ulid where
  milliseconds : UInt64
  random : Nat
deriving DecidableEq

namespace Ulid

def digits : List Char :=
  "0123456789ABCDEFGHJKMNPQRSTVWXYZ".toList

def value (ulid : Ulid) : Nat :=
  (ulid.milliseconds.toNat % (1 <<< 48)) <<< 80 + ulid.random % (1 <<< 80)

/-- The last digits of a number in base 32, so many of them, the first one leading. -/
def writeDigits : Nat → Nat → List Char
  | 0, _ => []
  | count + 1, value => writeDigits count (value / 32) ++ [digits.getD (value % 32) '0']

def written (ulid : Ulid) : String :=
  String.ofList (writeDigits 26 ulid.value)

end Ulid

def uniqueName (label : String) (ulid : Ulid) : String :=
  label ++ "-" ++ ulid.written

/-- A name fit for a database: after the label an underscore, lower case and no dash. -/
def uniqueDatabase (label : String) (ulid : Ulid) : String :=
  label ++ "_" ++ ulid.written.map Char.toLower

end Provision
