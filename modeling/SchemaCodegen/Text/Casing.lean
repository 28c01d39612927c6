import SchemaCodegen.Text.LetterCase
import SchemaCodegen.Text.CaseMap

/-!
# Changing the case of a text

Lower-casing works character by character, except that a capital sigma at the end of a word
becomes `ς` and `σ` everywhere else. A word ends at a sigma when the nearest character before
it, case-ignorable ones skipped, is cased, and the nearest one after it is not. Changing the
first letter alone looks at no other character.
-/

namespace SchemaCodegen.Text

/-- Whether the first character that is not case-ignorable exists and is cased. -/
def startsCased (cs : List Char) : Bool :=
  match cs.dropWhile caseIgnorable.contains with
  | [] => false
  | c :: _ => cased.contains c

/-- Lower-cases `cs`, which stands after the characters of `before` (nearest first). -/
def lowerChars (before : List Char) : List Char → List Char
  | [] => []
  | c :: cs =>
    (if c = 'Σ' then [if startsCased before && !startsCased cs then 'ς' else 'σ']
      else lowerChar c) ++ lowerChars (c :: before) cs

def lower (s : String) : String := String.ofList (lowerChars [] s.toList)

def upperFirst : List Char → List Char
  | [] => []
  | c :: cs => upperChar c ++ cs

def lowerFirst : List Char → List Char
  | [] => []
  | c :: cs => lowerChar c ++ cs

def mixesCases (cs : List Char) : Bool :=
  cs.any uppercase.contains && cs.any lowercase.contains

/-- The lower-case form of an ASCII capital; any other character is left alone. -/
def lowerAscii (c : Char) : Char :=
  if 'A' ≤ c ∧ c ≤ 'Z' then Char.ofNat (c.toNat + 32) else c

/-- Whether two texts agree up to the case of ASCII letters. -/
def equalAsciiFolded (s t : String) : Bool :=
  s.toList.map lowerAscii == t.toList.map lowerAscii

end SchemaCodegen.Text
