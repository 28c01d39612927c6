import SchemaCodegen.Number.Binary64

/-!
# Reading decimals

A decimal literal is a sign, an integer part, a fraction and an exponent. Two readings lead to a
binary number. The nearest one rounds the exact value once. The quick one, which JSON texts use,
first keeps as many digits as fit into 64 bits, then multiplies or divides the rounded integer
by a rounded power of ten, so that it may miss the nearest number by a bit.
-/

namespace SchemaCodegen.Number

/-- A decimal literal; both parts are lists of decimal digits. -/
structure Decimal where
  negative : Bool
  whole : List Char
  fraction : List Char
  exponent : Int
deriving DecidableEq, Repr

def digitValue (c : Char) : Nat := c.toNat - '0'.toNat

/-- The natural number with the given digits after those of `start`. -/
def natOfDigits (start : Nat) (digits : List Char) : Nat :=
  digits.foldl (fun n c => 10 * n + digitValue c) start

/-- Appends digits to `start` as long as the number stays below `2 ^ 64`, and gives the digits
left over. -/
def fitDigits : Nat → List Char → Nat × List Char
  | n, [] => (n, [])
  | n, c :: cs =>
    if 10 * n + digitValue c < Nat.pow 2 64 then fitDigits (10 * n + digitValue c) cs
    else (n, c :: cs)

namespace Decimal

/-- The finite number nearest to the literal's value, if the value is not too large. -/
def nearest? (d : Decimal) : Option Binary64 :=
  let significand := natOfDigits 0 (d.whole ++ d.fraction)
  let exponent := d.exponent - d.fraction.length
  if significand = 0 then some (Binary64.ofWord d.negative 0)
  -- far beyond all finite numbers, or far below: the ratio itself would be huge
  else if exponent > 400 then none
  else if exponent + (d.whole.length + d.fraction.length) < -400 then
    some (Binary64.ofWord d.negative 0)
  else
    Binary64.ofRatio? d.negative (significand * Nat.pow 10 exponent.toNat)
      (Nat.pow 10 (-exponent).toNat)

/-- The rounded power `10 ^ n`, for `n ≤ 308`. -/
def powerOfTen (n : Nat) : Binary64 := .ofWord false (Binary64.nearestWord (Nat.pow 10 n) 1)

/-- Divides by `10 ^ 308` as often as told. Three times empty every 64-bit significand. -/
def divideDown (x : Binary64) : Nat → Option Binary64
  | 0 => some x
  | n + 1 => (divideDown x n).bind (·.div? (powerOfTen 308))

/-- The significand times a power of ten, rounded at each step. Powers beyond `10 ^ 308` are
refused, and powers below `10 ^ -308` are divided away in steps. -/
def scale? (significand : Nat) (exponent : Int) : Option Binary64 :=
  let start := Binary64.ofWord false (Binary64.nearestWord significand 1)
  if significand = 0 then some start
  else if exponent > 308 then none
  else if 0 ≤ exponent then start.mul? (powerOfTen exponent.toNat)
  else
    let size := (-exponent).toNat
    let steps := (size - 1) / 308
    (divideDown start (min steps 3)).bind (·.div? (powerOfTen (size - 308 * steps)))

/-- The quick reading: digits are kept while they fit into 64 bits, once in the integer part and
once more in the fraction; dropped integer digits count as a power of ten. -/
def quick? (d : Decimal) : Option Binary64 :=
  let (whole, wholeRest) := fitDigits 0 d.whole
  let (significand, fractionRest) := fitDigits whole d.fraction
  let exponent := d.exponent + wholeRest.length - (d.fraction.length - fractionRest.length : Nat)
  (scale? significand exponent).map (·.withSign d.negative)

end Decimal

end SchemaCodegen.Number
