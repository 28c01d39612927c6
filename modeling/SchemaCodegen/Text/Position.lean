import SchemaCodegen.Text.Search

/-!
# Places in a source text

A place is a number of UTF-8 bytes from the start of the text, or a line and a column. Lines
count from one and end after a line feed; the column is the number of bytes of the line that
come before the place. A span is a place and a length.
-/

namespace SchemaCodegen.Text

/-- A stretch of a source text in bytes. -/
structure Span where
  start : Nat
  length : Nat
deriving DecidableEq, Repr, Inhabited

def Span.stop (s : Span) : Nat := s.start + s.length

structure LineColumn where
  line : Nat
  column : Nat
deriving DecidableEq, Repr

/-- The bytes of the first `lines` lines of `cs`, line feeds included. -/
def bytesOfLines : Nat → List Char → Nat
  | 0, _ => 0
  | _ + 1, [] => 0
  | lines + 1, c :: cs => c.utf8Size + bytesOfLines (if c = '\n' then lines else lines + 1) cs

/-- The place at a line and a one-based column, at most the end of the text. A text has no line
zero. A decoder reports columns that are at most the number of bytes of the text, and a line
starts at most there: the sum is at most twice that number and fits a machine word. -/
def byteOffset (source : String) (line column : Nat) : Option Nat :=
  if line = 0 then none
  else some (min (bytesOfLines (line - 1) source.toList + (column - 1)) source.utf8ByteSize)

/-- The line and column reached once the first `bytes` bytes of `cs` are read, starting from
`here`. -/
def advance (here : LineColumn) : Nat → List Char → LineColumn
  | _, [] => here
  | bytes, c :: cs =>
    if bytes < c.utf8Size then { here with column := here.column + bytes }
    else
      advance
        (if c = '\n' then ⟨here.line + 1, 0⟩
         else { here with column := here.column + c.utf8Size })
        (bytes - c.utf8Size) cs

def lineColumn (source : String) (bytes : Nat) : LineColumn :=
  advance ⟨1, 0⟩ bytes source.toList

/-- The inside of the first occurrence of `needle` between double quotes, or else the first
occurrence of a `needle` that is not empty. -/
def findSpan (source needle : String) : Option Span :=
  match findFirst ('"' :: needle.toList ++ ['"']) source.toList with
  | some place => some ⟨place + 1, needle.utf8ByteSize⟩
  | none =>
    if needle.isEmpty then none
    else (findFirst needle.toList source.toList).map (⟨·, needle.utf8ByteSize⟩)

end SchemaCodegen.Text
