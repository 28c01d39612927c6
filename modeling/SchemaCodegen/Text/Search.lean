/-!
# Searching a text

The place of the first occurrence of a text in another, counted in UTF-8 bytes, and the number
of bytes of a list of characters.
-/

namespace SchemaCodegen.Text

def byteCount : List Char → Nat
  | [] => 0
  | c :: cs => c.utf8Size + byteCount cs

/-- How many bytes of the text stand before the first occurrence of `needle`. -/
def findFirst (needle : List Char) : List Char → Option Nat
  | [] => if needle.isEmpty then some 0 else none
  | c :: cs =>
    if needle.isPrefixOf (c :: cs) then some 0
    else (findFirst needle cs).map (c.utf8Size + ·)

def occursIn (needle s : String) : Bool := (findFirst needle.toList s.toList).isSome

/-- What follows `lead` in `cs`, if `cs` starts with it. -/
def dropLead? (lead cs : List Char) : Option (List Char) :=
  if lead.isPrefixOf cs then some (cs.drop lead.length) else none

/-- What stands before `tail` in `cs`, if `cs` ends with it. -/
def dropTail? (tail cs : List Char) : Option (List Char) :=
  (dropLead? tail.reverse cs.reverse).map List.reverse

end SchemaCodegen.Text
