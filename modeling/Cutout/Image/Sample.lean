/-!
# Samples as numbers

Eight-bit samples in whole-number and in single-precision arithmetic: bringing counts and samples into
it, and rounding back to the nearest sample.
-/

namespace Cutout

/-- The sample nearest to a whole number. -/
def sampleOf (v : Int) : UInt8 :=
  UInt8.ofNat (min v.toNat 255)

/-- Where `n` samples are doubled, the other sample that a new one is blended from: the one before for
the first half of a sample, the one after for its second half, and the sample itself at the ends. -/
def otherSample (n i : Nat) : Nat :=
  if i % 2 = 0 then i / 2 - 1 else min (i / 2 + 1) (n - 1)

/-- A count as a single-precision number. -/
def single (n : Nat) : Float32 :=
  n.toUInt64.toFloat32

/-- The largest whole number not above a nonnegative number; zero below that. -/
def wholeBelow (x : Float32) : Nat :=
  x.toUInt64.toNat

/-- The smallest whole number not below a nonnegative number; zero below that. -/
def wholeAbove (x : Float32) : Nat :=
  let n := wholeBelow x
  if single n < x then n + 1 else n

/-- The nearest sample, a half going up. What is below 0 or not a number becomes 0, and what is
above 255 becomes 255. -/
def nearestSample (x : Float32) : UInt8 :=
  let n := x.toUInt8
  if n = 255 then 255
  else if 0.5 ≤ x - n.toFloat32 then n + 1
  else n

end Cutout
