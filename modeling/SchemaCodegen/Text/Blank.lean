import SchemaCodegen.Text.Run

/-!
# Blank characters

The characters with the Unicode property `White_Space`, and the two operations that look at
them: trimming both ends of a text, and cutting it into words.
-/

namespace SchemaCodegen.Text

/-- Code points with the property `White_Space`. -/
def blanks : RunSet :=
  [⟨0x0009, 0x000D, 1⟩, ⟨0x0020, 0x0020, 1⟩, ⟨0x0085, 0x0085, 1⟩, ⟨0x00A0, 0x00A0, 1⟩,
   ⟨0x1680, 0x1680, 1⟩, ⟨0x2000, 0x200A, 1⟩, ⟨0x2028, 0x2029, 1⟩, ⟨0x202F, 0x202F, 1⟩,
   ⟨0x205F, 0x205F, 1⟩, ⟨0x3000, 0x3000, 1⟩]

def isBlank (c : Char) : Bool := blanks.contains c

/-- The longest runs of characters that are not separators, in order. -/
def segments (isSeparator : Char → Bool) : List Char → List (List Char)
  | [] => []
  | c :: cs =>
    if isSeparator c then segments isSeparator cs
    else
      match cs with
      | [] => [[c]]
      | d :: _ =>
        match isSeparator d, segments isSeparator cs with
        | false, word :: rest => (c :: word) :: rest
        | _, rest => [c] :: rest

/-- The characters left after the blank ones at both ends are dropped. -/
def trimChars (cs : List Char) : List Char :=
  ((cs.dropWhile isBlank).reverse.dropWhile isBlank).reverse

def trim (s : String) : String := String.ofList (trimChars s.toList)

def isAllBlank (s : String) : Bool := s.toList.all isBlank

/-- The words of `cs` joined by one space each. -/
def collapseBlanks (cs : List Char) : List Char :=
  [' '].intercalate (segments isBlank cs)

end SchemaCodegen.Text
