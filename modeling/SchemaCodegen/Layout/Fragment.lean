/-!
# Fragments

Source text is described by fragments before it is laid out: lines, blank lines, one-line block
comments, and blocks whose body stands one level deeper than their header. Fragments say nothing
about the width of a level.
-/

namespace SchemaCodegen

inductive Fragment where
  /-- One line at the current depth. -/
  | line (text : String)
  /-- An empty line, never indented. -/
  | blank
  /-- A block comment on one line. -/
  | doc (text : String)
  /-- A header, a body one level deeper, and a closing line at the header's depth, if any. -/
  | block (header : String) (body : List Fragment) (close : Option String)
deriving Repr, Inhabited

namespace Fragment

def docLine (text : String) : String := "/** " ++ text ++ " */"

/-- Groups of fragments one after the other, with a blank line between two groups if `spaced`. -/
def joinGroups (spaced : Bool) (groups : List (List Fragment)) : List Fragment :=
  if spaced then [blank].intercalate groups else groups.flatten

end Fragment

/-- Each item with the separator that follows it: none after the last. -/
def withSeparators {α : Type} (separator : String) : List α → List (α × String)
  | [] => []
  | [a] => [(a, "")]
  | a :: b :: rest => (a, separator) :: withSeparators separator (b :: rest)

end SchemaCodegen
