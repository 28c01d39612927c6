import SchemaCodegen.Document.Node
import SchemaCodegen.Number.Literal

/-!
# JSON tokens

A JSON text is a sequence of marks, texts and words between blanks. A text may hold escapes for
halves of surrogate pairs; two halves in a row make one character, and a text with a half left
over has no content.
-/

namespace SchemaCodegen.Document.Json

open SchemaCodegen.Number SchemaCodegen.Text

inductive Lexeme where
  /-- One of `[`, `]`, `{`, `}`, `,` and `:`. -/
  | mark (c : Char)
  /-- A quoted text, if it has content. -/
  | text (content : Option String)
  | scalar (content : Scalar)
deriving DecidableEq, Repr

structure Token where
  lexeme : Lexeme
  span : Span
deriving DecidableEq, Repr

def isSpace (c : Char) : Bool := c == ' ' || c == '\t' || c == '\n' || c == '\r'

def isMark (c : Char) : Bool :=
  c == '[' || c == ']' || c == '\x7b' || c == '\x7d' || c == ',' || c == ':'

/-- Whether `c` may stand in a word, which ends at a blank, a mark or a quote. -/
def isWordChar (c : Char) : Bool := !isSpace c && !isMark c && c != '"'

/-! ## Texts -/

def hexDigit? (c : Char) : Option Nat :=
  if '0' ≤ c ∧ c ≤ '9' then some (c.toNat - '0'.toNat)
  else if 'a' ≤ c ∧ c ≤ 'f' then some (c.toNat - 'a'.toNat + 10)
  else if 'A' ≤ c ∧ c ≤ 'F' then some (c.toNat - 'A'.toNat + 10)
  else none

def hexNumber? (digits : List Char) : Option Nat :=
  digits.foldl (fun n c => n.bind fun n => (hexDigit? c).map (16 * n + ·)) (some 0)

/-- A character of a text, or a 16-bit unit that an escape gives by its number. -/
inductive Piece where
  | char (c : Char)
  | unit (n : Nat)
deriving DecidableEq, Repr

/-- The character that a backslash and a letter stand for. -/
def escaped? (c : Char) : Option Char :=
  match c with
  | '"' => some '"'
  | '\\' => some '\\'
  | '/' => some '/'
  | 'b' => some '\x08'
  | 'f' => some '\x0c'
  | 'n' => some '\n'
  | 'r' => some '\r'
  | 't' => some '\t'
  | _ => none

/-- The pieces of a text up to its closing quote, and the number of characters that it takes, the
closing quote included. -/
def pieces : List Char → Option (List Piece × Nat)
  | [] => none
  | '"' :: _ => some ([], 1)
  | '\\' :: 'u' :: a :: b :: c :: d :: cs =>
    match hexNumber? [a, b, c, d], pieces cs with
    | some n, some (rest, count) => some (.unit n :: rest, count + 6)
    | _, _ => none
  | '\\' :: e :: cs =>
    match escaped? e, pieces cs with
    | some c, some (rest, count) => some (.char c :: rest, count + 2)
    | _, _ => none
  | c :: cs =>
    if c.toNat < 0x20 then none
    else (pieces cs).map fun (rest, count) => (.char c :: rest, count + 1)

def isHighHalf (n : Nat) : Bool := decide (0xD800 ≤ n) && decide (n < 0xDC00)

def isLowHalf (n : Nat) : Bool := decide (0xDC00 ≤ n) && decide (n < 0xE000)

/-- The characters of pieces, if no half of a pair is left over. -/
def joinPieces? : List Piece → Option (List Char)
  | [] => some []
  | .char c :: rest => (joinPieces? rest).map (c :: ·)
  | .unit h :: .unit l :: rest =>
    if isHighHalf h then
      if isLowHalf l then
        -- two halves give ten bits each of a character beyond the first 65536
        (joinPieces? rest).map (Char.ofNat (0x10000 + (h - 0xD800) * 0x400 + (l - 0xDC00)) :: ·)
      else none
    else if isLowHalf h then none
    else (joinPieces? (.unit l :: rest)).map (Char.ofNat h :: ·)
  | .unit n :: rest =>
    if isHighHalf n || isLowHalf n then none else (joinPieces? rest).map (Char.ofNat n :: ·)

/-! ## Words -/

/-- The number of a literal. Integers of 64 bits, signed or not, are kept as such; negative zero
and all other numbers are real, and a real number must not be too large. -/
def number (negative : Bool) (l : Literal) : Scalar :=
  let n := natOfDigits 0 l.whole
  if l.isInteger && negative && decide (0 < n ∧ n ≤ Nat.pow 2 63) then .int (-(n : Int))
  else if l.isInteger && !negative && decide (n < Nat.pow 2 64) then .int n
  else
    match (l.decimal negative).quick? with
    | some x => .real x
    | none => .unreadable

def numberOf? (word : List Char) : Option Scalar :=
  let (negative, digits) :=
    match word with
    | '-' :: rest => (true, rest)
    | _ => (false, word)
  match Literal.ofChars? digits with
  | some l => if l.hasLeadingZero then none else some (number negative l)
  | none => none

def scalarOf? (word : List Char) : Option Scalar :=
  if word = "null".toList then some .null
  else if word = "true".toList then some (.bool true)
  else if word = "false".toList then some (.bool false)
  else numberOf? word

/-! ## Tokens -/

/-- The lexeme that starts with `c`, and the number of characters of `cs` that it takes. -/
def lexeme (c : Char) (cs : List Char) : Option (Lexeme × Nat) :=
  if isMark c then some (.mark c, 0)
  else if c = '"' then
    (pieces cs).map fun (ps, count) => (.text ((joinPieces? ps).map String.ofList), count)
  else
    let more := cs.takeWhile isWordChar
    (scalarOf? (c :: more)).map fun content => (.scalar content, more.length)

def tokens (place : Nat) : List Char → Option (List Token)
  | [] => some []
  | c :: cs =>
    if isSpace c then tokens (place + c.utf8Size) cs
    else
      match lexeme c cs with
      | none => none
      | some (found, count) =>
        let width := byteCount (c :: cs.take count)
        (tokens (place + width) (cs.drop count)).map (⟨found, ⟨place, width⟩⟩ :: ·)
termination_by cs => cs.length
decreasing_by
  · simp
  · simp only [List.length_drop, List.length_cons]
    omega

end SchemaCodegen.Document.Json
