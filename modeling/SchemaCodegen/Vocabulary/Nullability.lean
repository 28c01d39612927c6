import SchemaCodegen.Text.Casing
import SchemaCodegen.Vocabulary.UnknownName

/-!
# Nullability marks

Whether a column accepts `NULL`, as metadata tables spell it.
-/

namespace SchemaCodegen

/-- Whether a column accepts `NULL`. -/
inductive Nullability where
  | yes
  | no
deriving DecidableEq, Repr

namespace Nullability

def name : Nullability → String
  | yes => "YES"
  | no => "NO"

/-- The mark that `s` spells; only the case of ASCII letters is ignored. -/
def ofName (s : String) : Except UnknownName Nullability :=
  if Text.equalAsciiFolded s "yes" then .ok yes
  else if Text.equalAsciiFolded s "no" then .ok no
  else .error (.nullability s)

end Nullability

end SchemaCodegen
