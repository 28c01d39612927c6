import SchemaCodegen.Proofs.Declaration.Lines
import SchemaCodegen.Proofs.Mapper.Forms

/-!
# Commas stand between items

Three places list items with commas: the lists of a statement, the components of a
Java record and the parameters of a positional record in C#. Each shows its items
on lines of their own, in order, with a comma behind all of them but the last, and
whatever else is printed stands on other lines. A declaration without members has
no such line.
-/

namespace SchemaCodegen

open Fragment

/-! ## Java -/

namespace Java

def Field.declared (f : Field) : String := f.type ++ " " ++ f.name

/-- The lines of a record with its components declared on `lines`, each under its annotations. -/
def RecordDecl.around (r : RecordDecl) (lines : List String) : List String :=
  r.annotations.map (·.text) ++
    if r.components.isEmpty then ["public record " ++ r.name ++ "() \x7b\x7d"]
    else
      ("public record " ++ r.name ++ "(") ::
        (joinLines r.spaced
            (List.zipWith (fun f line => (f.annotations.map (·.text) ++ [line]).map ("    " ++ ·))
              r.components lines) ++
          [") \x7b\x7d"])

theorem RecordDecl.exists_around (r : RecordDecl) :
    ∃ lines, Separated (r.components.map Field.declared) lines ∧
      r.print = unlines (r.around lines) := by
  refine ⟨_, separated_withSeparators Field.declared r.components, ?_⟩
  rw [print, print_eq_unlines, allLines_fragments, around, zipWith_withSeparators]
  rfl

end Java

/-! ## C# -/

namespace CSharp

/-- The lines of a positional record with its parameters declared on `lines`, under its imports. -/
def PositionalRecord.around (r : PositionalRecord) (lines : List String) : List String :=
  allLines .four 0 (usingLines (r.parameters.flatMap (·.attributes))) ++
    if r.parameters.isEmpty then ["public record " ++ r.name ++ "();"]
    else
      ("public record " ++ r.name ++ "(") ::
        (joinLines r.spaced (lines.map fun line => ["    " ++ line]) ++ [");"])

theorem PositionalRecord.exists_around (r : PositionalRecord) :
    ∃ lines, Separated (r.parameters.map Parameter.declared) lines ∧
      r.print = unlines (r.around lines) := by
  refine ⟨_, separated_withSeparators Parameter.declared r.parameters, ?_⟩
  rw [print, print_eq_unlines, allLines_fragments, around, List.map_map]
  rfl

end CSharp

/-! ## All three places -/

/-- **Commas stand between items only.** The lists of statements, the components of records and the
parameters of positional records are on separated lines. The lines of a statement's list, one under
the other, are the items with two spaces in front and a comma and a break between two. -/
theorem commas_between_items :
    (∀ items, Separated (items.map ("  " ++ ·)) (Mapper.listLines items) ∧
      "\n".intercalate (Mapper.listLines items) = ",\n".intercalate (items.map ("  " ++ ·))) ∧
    (∀ r : Java.RecordDecl, ∃ lines, Separated (r.components.map Java.Field.declared) lines ∧
      r.print = unlines (r.around lines)) ∧
    ∀ r : CSharp.PositionalRecord,
      ∃ lines, Separated (r.parameters.map CSharp.Parameter.declared) lines ∧
        r.print = unlines (r.around lines) := by
  refine ⟨?_, Java.RecordDecl.exists_around, CSharp.PositionalRecord.exists_around⟩
  intro items
  have hlist := Mapper.separated_listLines items
  exact ⟨hlist, hlist.intercalate_eq⟩

example : Mapper.listLines [] = [] ∧ Mapper.listLines ["a", "b,"] = ["  a,", "  b,"] := by decide

end SchemaCodegen
