import SchemaCodegen.Number.Decimal

/-!
# Number literals

The common part of the number syntax of both document formats: digits, an optional fraction and
an optional exponent. In TOML single underscores may stand between digits.
-/

namespace SchemaCodegen.Number

def isDigit (c : Char) : Bool := decide ('0' ≤ c) && decide (c ≤ '9')

/-- A number as it is written, without its sign. -/
structure Literal where
  whole : List Char
  fraction : Option (List Char)
  exponent : Option Int
deriving DecidableEq, Repr

namespace Literal

/-- Whether the literal has neither a fraction nor an exponent. -/
def isInteger (l : Literal) : Bool := l.fraction.isNone && l.exponent.isNone

/-- Whether the integer part starts with a zero that is not its only digit. -/
def hasLeadingZero (l : Literal) : Bool :=
  match l.whole with
  | '0' :: _ :: _ => true
  | _ => false

def decimal (l : Literal) (negative : Bool) : Decimal :=
  ⟨negative, l.whole, l.fraction.getD [], l.exponent.getD 0⟩

/-- The exponent at the end of a literal: a sign, if any, and digits. -/
def exponentOf? : List Char → Option Int
  | '-' :: digits => if digits.isEmpty || !digits.all isDigit then none
    else some (-(natOfDigits 0 digits : Int))
  | '+' :: digits => if digits.isEmpty || !digits.all isDigit then none
    else some (natOfDigits 0 digits)
  | digits => if digits.isEmpty || !digits.all isDigit then none
    else some (natOfDigits 0 digits)

/-- Cuts a text at the first character of which `p` holds; without one the second part is
missing. -/
def cutAt (p : Char → Bool) (cs : List Char) : List Char × Option (List Char) :=
  (cs.takeWhile (!p ·),
    match cs.dropWhile (!p ·) with
    | [] => none
    | _ :: rest => some rest)

def ofChars? (cs : List Char) : Option Literal :=
  let (mantissa, exponent) := cutAt (fun c => c == 'e' || c == 'E') cs
  let (whole, fraction) := cutAt (· == '.') mantissa
  if whole.isEmpty || !whole.all isDigit then none
  else if fraction.any fun digits => digits.isEmpty || !digits.all isDigit then none
  else
    match exponent with
    | none => some ⟨whole, fraction, none⟩
    | some text => (exponentOf? text).map fun e => ⟨whole, fraction, some e⟩

end Literal

/-- Drops the underscores of `cs`, each of which must stand between two digits. -/
def dropUnderscores? (isDigit : Char → Bool) : List Char → Option (List Char)
  | [] => some []
  | '_' :: _ => none
  | c :: '_' :: d :: cs =>
    if isDigit c && isDigit d then (dropUnderscores? isDigit (d :: cs)).map (c :: ·) else none
  | c :: cs => (dropUnderscores? isDigit cs).map (c :: ·)

end SchemaCodegen.Number
