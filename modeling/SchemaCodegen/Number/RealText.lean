import SchemaCodegen.Number.Shortest

/-!
# The text of a real number

A number is written with its shortest digits, and with a fraction `.0` or an exponent, so that
it never looks like an integer. A format says for which decimal exponents the digits are written
positionally.
-/

namespace SchemaCodegen.Number

/-- The exponents, of the first digit, that are written positionally. -/
structure RealFormat where
  isPositional : Int → Bool

/-- Small and large numbers are written with an exponent: positional notation covers
`10 ^ -5 ≤ x < 10 ^ 16`. -/
def RealFormat.mixed : RealFormat := ⟨fun e => decide (-5 ≤ e) && decide (e < 16)⟩

/-- Every number is written positionally. -/
def RealFormat.positional : RealFormat := ⟨fun _ => true⟩

def decimalDigits (n : Nat) : List Char := Nat.toDigits 10 n

/-- The digits with a decimal point after the digit of `10 ^ 0`. -/
def positionalText (digits : List Char) (exponent : Int) : List Char :=
  let leading : Int := digits.length + exponent
  if 0 ≤ exponent then digits ++ List.replicate exponent.toNat '0' ++ ['.', '0']
  else if 0 < leading then digits.take leading.toNat ++ '.' :: digits.drop leading.toNat
  else ['0', '.'] ++ List.replicate (-leading).toNat '0' ++ digits

/-- The digits with a point after the first one, and an exponent with its sign. -/
def exponentText (digits : List Char) (exponent : Int) : List Char :=
  let first : Int := digits.length + exponent - 1
  digits.take 1 ++ (if digits.length ≤ 1 then [] else '.' :: digits.drop 1) ++
    'e' :: (if first < 0 then '-' else '+') :: decimalDigits first.natAbs

def magnitudeText (format : RealFormat) (x : Binary64) : List Char :=
  if x.isFinite then
    if x.significand = 0 then "0.0".toList
    else
      let s := shortest x
      let digits := decimalDigits s.digits
      if format.isPositional (digits.length + s.exponent - 1) then positionalText digits s.exponent
      else exponentText digits s.exponent
  else if x.isInfinite then "inf".toList
  else "NaN".toList

/-- The text of `x`; a NaN has no sign. -/
def realText (format : RealFormat) (x : Binary64) : String :=
  String.ofList
    ((if x.isNegative && (x.isFinite || x.isInfinite) then ['-'] else []) ++ magnitudeText format x)

end SchemaCodegen.Number
