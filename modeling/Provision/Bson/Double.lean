/-!
Double precision numbers by their bits, and the integer that one truncates to.

A finite double is a significand times a power of two, so truncation is a shift. What lies outside
the 64-bit integers becomes the nearest of them, and what is no number becomes zero.
-/

namespace Provision.Bson

structure Double where
  bits : UInt64
deriving DecidableEq

namespace Double

def isNegative (double : Double) : Bool :=
  double.bits.toNat >>> 63 = 1

def exponent (double : Double) : Nat :=
  (double.bits.toNat >>> 52) % 0x800

def fraction (double : Double) : Nat :=
  double.bits.toNat % 0x10000000000000

/-- The whole part of the absolute value of a finite double. Below the exponent of one there is
none, so the missing leading one of the least exponent does not matter. -/
def magnitude (double : Double) : Nat :=
  let significand := 0x10000000000000 + double.fraction
  if double.exponent < 1023 then 0
  else if double.exponent < 1075 then significand >>> (1075 - double.exponent)
  else significand <<< (double.exponent - 1075)

def clamp (value : Int) : Int64 :=
  if value < Int64.minValue.toInt then Int64.minValue
  else if Int64.maxValue.toInt < value then Int64.maxValue
  else Int64.ofInt value

def isNaN (double : Double) : Bool :=
  double.exponent = 2047 && double.fraction ≠ 0

/-- Truncates toward zero. An infinity has a magnitude far outside the range, and so clamps. -/
def truncated (double : Double) : Int64 :=
  if double.isNaN then 0
  else if double.isNegative then clamp (-double.magnitude)
  else clamp double.magnitude

end Double

end Provision.Bson
