import SchemaCodegen.Document.Moment
import SchemaCodegen.Document.Node

/-!
# TOML scalars

The values that are written without quotes: booleans, integers in four bases, real numbers, dates
and times. Single underscores may stand between digits, and one after a sign. Some texts have the
outline of an integer but spell none; like numbers that are too large, they are no fault until a
reader comes to them.
-/

namespace SchemaCodegen.Document.Toml

open SchemaCodegen.Number

/-- The value of a digit in a base up to sixteen. -/
def baseDigit? (base : Nat) (c : Char) : Option Nat :=
  let value? :=
    if '0' ≤ c ∧ c ≤ '9' then some (c.toNat - '0'.toNat)
    else if 'a' ≤ c ∧ c ≤ 'f' then some (c.toNat - 'a'.toNat + 10)
    else if 'A' ≤ c ∧ c ≤ 'F' then some (c.toNat - 'A'.toNat + 10)
    else none
  value?.filter (· < base)

def baseNumber? (base : Nat) (digits : List Char) : Option Nat :=
  digits.foldl (fun n c => n.bind fun n => (baseDigit? base c).map (base * n + ·)) (some 0)

def integer (i : Int) : Scalar :=
  if -Int.pow 2 63 ≤ i ∧ i < Int.pow 2 64 then .int i
  else if -Int.pow 2 127 ≤ i ∧ i < Int.pow 2 128 then .wide
  else .overflow .integer

def isHexDigit (c : Char) : Bool := (baseDigit? 16 c).isSome

/-- The integer after a base mark. A mark without digits counts as a number too large. -/
def basedInteger? (base : Nat) (cs : List Char) : Option Scalar :=
  match dropUnderscores? (fun c => (baseDigit? base c).isSome) cs with
  | none => none
  | some [] => some (.overflow .integer)
  | some digits => (baseNumber? base digits).map fun n => integer n

/-- Whether a text that is no number still counts as an integer, one too large: it holds neither a
point nor an exponent, and its underscores stand between digits of any base. -/
def isSpoilt (cs : List Char) : Bool :=
  !cs.any (fun c => c == '.' || c == 'e' || c == 'E') && (dropUnderscores? isHexDigit cs).isSome

/-- Whether a text starts with decimal digits, no zero first, and an underscore after them. -/
def startsGrouped (cs : List Char) : Bool :=
  match cs, cs.dropWhile isDigit with
  | c :: _, '_' :: _ => isDigit c && c != '0'
  | _, _ => false

def literal (negative : Bool) (l : Literal) : Scalar :=
  if l.isInteger then
    let n : Int := natOfDigits 0 l.whole
    integer (if negative then -n else n)
  else
    match (l.decimal negative).nearest? with
    | some x => .real x
    | none => .overflow .real

/-- The integer without a base mark, or the real number, that a text spells. -/
def decimalNumber? (negative : Bool) (cs : List Char) : Option Scalar :=
  match (dropUnderscores? isDigit cs).bind Literal.ofChars? with
  | some l => if l.hasLeadingZero then none else some (literal negative l)
  | none => if startsGrouped cs && isSpoilt cs then some (.overflow .integer) else none

/-- The number after a sign and an underscore, which may start with zeros. -/
def groupedNumber? (negative : Bool) (cs : List Char) : Option Scalar :=
  match (dropUnderscores? isDigit cs).bind Literal.ofChars? with
  | some l => some (literal negative l)
  | none =>
    if (cs.head?.any isHexDigit) && isSpoilt cs then some (.overflow .integer) else none

def unsigned? (negative : Bool) (cs : List Char) : Option Scalar :=
  if cs = "inf".toList then some (.real (Binary64.infinity negative))
  else if cs = "nan".toList then some (.real (Binary64.nan negative))
  else decimalNumber? negative cs

def signed? (negative : Bool) : List Char → Option Scalar
  | '_' :: cs => groupedNumber? negative cs
  | cs => unsigned? negative cs

/-- The scalar that an unquoted text spells. -/
def scalarOf? (cs : List Char) : Option Scalar :=
  match cs with
  | '+' :: rest => signed? false rest
  | '-' :: rest => signed? true rest
  | '0' :: 'x' :: rest => basedInteger? 16 rest
  | '0' :: 'o' :: rest => basedInteger? 8 rest
  | '0' :: 'b' :: rest => basedInteger? 2 rest
  | _ =>
    if cs = "true".toList then some (.bool true)
    else if cs = "false".toList then some (.bool false)
    else unsigned? false cs <|> (Moment.ofChars? cs).map (.moment ·.text)

end SchemaCodegen.Document.Toml
