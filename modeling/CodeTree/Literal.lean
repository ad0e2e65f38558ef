/-!
# Literal values

A number is kept as its 64 bits.  Equality of numbers is that of IEEE-754, where a NaN
is not equal to itself; equivalence takes all NaNs as one value.
-/

namespace CodeTree

structure Number where
  bits : UInt64
deriving DecidableEq

namespace Number

def magnitude (x : Number) : UInt64 :=
  x.bits &&& 0x7fffffffffffffff

def isNaN (x : Number) : Bool :=
  0x7ff0000000000000 < x.magnitude

def isZero (x : Number) : Bool :=
  x.magnitude == 0

def numericEq (x y : Number) : Bool :=
  !x.isNaN && !y.isNaN && (x.bits == y.bits || (x.isZero && y.isZero))

/-- Equality of values, with all NaNs taken as one value. -/
def sameValue (x y : Number) : Bool :=
  x.numericEq y || (x.isNaN && y.isNaN)

/-- The number of a 32-bit integer.  It is exact: the integer has fewer than 53 binary
digits, which are shifted until the leading one is the implicit digit. -/
def ofInt32 (i : Int32) : Number :=
  let n := i.toInt.natAbs
  let sign := if i < 0 then 1 <<< 63 else 0
  if n = 0 then ⟨0⟩
  else
    ⟨UInt64.ofNat
      (sign + ((1023 + n.log2) <<< 52) + ((n - 1 <<< n.log2) <<< (52 - n.log2)))⟩

end Number

inductive Literal where
  | null
  | undefined
  | string (value : String)
  | number (value : Number)
  | bool (value : Bool)
deriving DecidableEq

namespace Literal

def valueEq : Literal → Literal → Bool
  | .number x, .number y => x.numericEq y
  | a, b => decide (a = b)

def equiv : Literal → Literal → Bool
  | .number x, .number y => x.sameValue y
  | a, b => decide (a = b)

end Literal

end CodeTree
