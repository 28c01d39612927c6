/-!
# Names outside the vocabulary

Engines, nullability marks, target languages and output styles are closed sets with fixed
spellings. A name that spells none of them is refused with the name as it was given.
-/

namespace SchemaCodegen

/-- A name that belongs to none of the members of a closed set. -/
inductive UnknownName where
  | engine (given : String)
  | nullability (given : String)
  | language (given : String)
  | style (given : String)
deriving DecidableEq, Repr

def UnknownName.message : UnknownName → String
  | .engine given =>
    s!"unknown database engine '{given}', expected 'mysql', 'postgres' or 'mssql'"
  | .nullability given => s!"invalid nullability '{given}', expected 'YES' or 'NO'"
  | .language given => s!"unknown language '{given}', expected 'java', 'csharp' or 'typescript'"
  | .style given => s!"unknown style '{given}'"

end SchemaCodegen
