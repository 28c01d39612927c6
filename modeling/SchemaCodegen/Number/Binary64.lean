/-!
# Binary64 numbers

A double-precision number as its 64 bits: a sign, eleven bits of exponent and 52 bits of
fraction. A finite magnitude is `m · 2 ^ q` with `m < 2 ^ 53` and `-1074 ≤ q ≤ 971`. Arithmetic
is exact on the ratios and rounds once, to the nearest number and on a tie to the even one.
-/

namespace SchemaCodegen.Number

structure Binary64 where
  bits : UInt64
deriving DecidableEq, Repr

namespace Binary64

/-- The word of infinity, one above the largest finite magnitude. -/
def infinityWord : Nat := 2047 * Nat.pow 2 52

/-- The number with a sign and the word of its magnitude. -/
def ofWord (negative : Bool) (word : Nat) : Binary64 :=
  ⟨UInt64.ofNat ((if negative then Nat.pow 2 63 else 0) + word)⟩

def isNegative (x : Binary64) : Bool := decide (Nat.pow 2 63 ≤ x.bits.toNat)

/-- Exponent field and fraction together. -/
def word (x : Binary64) : Nat := x.bits.toNat % Nat.pow 2 63

def isFinite (x : Binary64) : Bool := decide (x.word < infinityWord)

def isInfinite (x : Binary64) : Bool := x.word == infinityWord

/-- The integer `m` of a finite magnitude `m · 2 ^ q`. -/
def significand (x : Binary64) : Nat :=
  if x.word < Nat.pow 2 52 then x.word else x.word % Nat.pow 2 52 + Nat.pow 2 52

/-- The exponent `q` of a finite magnitude `m · 2 ^ q`. -/
def exponent (x : Binary64) : Int :=
  ((max (x.word / Nat.pow 2 52) 1 : Nat) : Int) - 1075

/-- The quotient `num / den` rounded to the nearest integer, a tie to the even one. -/
def roundDiv (num den : Nat) : Nat :=
  let quotient := num / den
  let rest := num % den
  if den < 2 * rest || (den == 2 * rest && quotient % 2 == 1) then quotient + 1 else quotient

/-- The largest `e` with `2 ^ e ≤ num / den`, for positive `num` and `den`. -/
def floorLog2 (num den : Nat) : Int :=
  let guess : Int := (num.log2 : Int) - den.log2
  if num * Nat.pow 2 (-guess).toNat < den * Nat.pow 2 guess.toNat then guess - 1 else guess

/-- The word of the magnitude nearest to `num / den`. A ratio too large for every finite
magnitude gives at least `infinityWord`. -/
def nearestWord (num den : Nat) : Nat :=
  if num = 0 then 0
  else
    let q := max (floorLog2 num den - 52) (-1074)
    (q + 1074).toNat * Nat.pow 2 52 +
      roundDiv (num * Nat.pow 2 (-q).toNat) (den * Nat.pow 2 q.toNat)

/-- The nearest finite number to `num / den` with a sign, if the ratio is not too large. -/
def ofRatio? (negative : Bool) (num den : Nat) : Option Binary64 :=
  let word := nearestWord num den
  if word < infinityWord then some (ofWord negative word) else none

/-- Numerator and denominator of a finite magnitude. -/
def ratio (x : Binary64) : Nat × Nat :=
  (x.significand * Nat.pow 2 x.exponent.toNat, Nat.pow 2 (-x.exponent).toNat)

/-- The product of two finite magnitudes, if it is not too large. -/
def mul? (x y : Binary64) : Option Binary64 :=
  ofRatio? false (x.ratio.1 * y.ratio.1) (x.ratio.2 * y.ratio.2)

/-- The quotient of two finite magnitudes, if it is not too large. -/
def div? (x y : Binary64) : Option Binary64 :=
  ofRatio? false (x.ratio.1 * y.ratio.2) (x.ratio.2 * y.ratio.1)

def withSign (negative : Bool) (x : Binary64) : Binary64 := ofWord negative x.word

def infinity (negative : Bool) : Binary64 := ofWord negative infinityWord

/-- A quiet NaN. -/
def nan (negative : Bool) : Binary64 := ofWord negative (infinityWord + Nat.pow 2 51)

end Binary64

end SchemaCodegen.Number
