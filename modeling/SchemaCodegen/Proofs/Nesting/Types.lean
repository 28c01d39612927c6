import SchemaCodegen.Emission.CSharp
import SchemaCodegen.Emission.TypeScript
import SchemaCodegen.Emission.Zod
import SchemaCodegen.Proofs.Nesting.Names
import SchemaCodegen.Proofs.TypeMap.Marks

/-!
# Well-nested types

The type of a column is well nested, whatever the engine reports as its raw
type: a raw type only selects an entry of a table. Each table has well-nested
entries for every engine, its array form keeps well-nested types well nested,
and so do the marks for missing values and the calls of a schema.
-/

namespace SchemaCodegen

namespace TypeTable

theorem wellNested_bracketed (element : String) (h : WellNested element) :
    WellNested (bracketed element) :=
  h.append (by decide)

/-- Every type that a table lists is well nested. -/
theorem wellNested_entries (engine : Engine) :
    ∀ t ∈ [java, csharp, typescript, zod], ∀ entry ∈ t.entries engine, WellNested entry.2 := by
  cases engine <;> decide +kernel

theorem wellNested_java (engine : Engine) (raw : String) :
    WellNested (java.mapType engine raw) := by
  refine mapType_induction (by decide) ?_ ?_ engine raw
  · exact fun engine => wellNested_entries engine java (by simp)
  · exact wellNested_bracketed

theorem wellNested_csharp (engine : Engine) (raw : String) :
    WellNested (csharp.mapType engine raw) := by
  refine mapType_induction (by decide) ?_ ?_ engine raw
  · exact fun engine => wellNested_entries engine csharp (by simp)
  · exact wellNested_bracketed

theorem wellNested_typescript (engine : Engine) (raw : String) :
    WellNested (typescript.mapType engine raw) := by
  refine mapType_induction (by decide) ?_ ?_ engine raw
  · exact fun engine => wellNested_entries engine typescript (by simp)
  · intro element h
    show WellNested (if element.toList.contains '|' then _ else _)
    split
    · -- A union stands in parentheses, so that the brackets bind to all of it.
      have hopen : Leaves [] "(" [')'] := by decide
      exact h.enclose hopen (by decide)
    · exact wellNested_bracketed element h

theorem wellNested_zod (engine : Engine) (raw : String) :
    WellNested (zod.mapType engine raw) := by
  refine mapType_induction (by decide) ?_ ?_ engine raw
  · exact fun engine => wellNested_entries engine zod (by simp)
  · intro element h
    have hopen : Leaves [] "array(z." [')'] := by decide
    exact h.enclose hopen (by decide)

end TypeTable

theorem CSharp.wellNested_columnType (engine : Engine) (nullable : Bool) (c : Column) :
    WellNested (CSharp.columnType engine nullable c) := by
  simp only [CSharp.columnType]
  split
  · rw [CSharpType.markNullable_mapType]
    exact (TypeTable.wellNested_csharp engine c.rawType).append (by decide)
  · exact TypeTable.wellNested_csharp engine c.rawType

theorem TypeScript.wellNested_columnType (engine : Engine) (strict : Bool) (c : Column) :
    WellNested (TypeScript.columnType engine strict c) := by
  refine (TypeTable.wellNested_typescript engine c.rawType).append ?_
  split <;> decide

/-! ## Chains of calls -/

theorem TypeScript.CallChain.wellNested_call {c : CallChain} (h : WellNested c.text)
    {method : String} (hmethod : BracketFree method) {arguments : List String}
    (harguments : ∀ argument ∈ arguments, WellNested argument) :
    WellNested (c.call method arguments).text := by
  have hcallee : WellNested (c.text ++ "." ++ method) :=
    (h.append (by decide)).append hmethod.wellNested
  have hopen : Leaves [] "(" [')'] := by decide
  exact (WellNested.intercalate (by decide) harguments).enclose
    (Leaves.append hcallee hopen) (by decide)

theorem Zod.wellNested_fieldChain (engine : Engine) (o : ZodOptions) (c : Column) :
    WellNested (fieldChain engine o c).text := by
  have hmethods : ∀ method ∈ plainMethods, BracketFree method := by decide
  refine fieldChain_induction (P := fun chain => WellNested chain.text) ?_ ?_ ?_ o
  · exact WellNested.append (by decide) (TypeTable.wellNested_zod engine c.rawType)
  · intro chain h method hmethod
    exact TypeScript.CallChain.wellNested_call h (hmethods method hmethod) (List.forall_mem_nil _)
  · intro chain h n
    apply TypeScript.CallChain.wellNested_call h (by decide)
    intro argument hargument
    rw [List.mem_singleton.mp hargument]
    exact (bracketFree_toString n).wellNested

end SchemaCodegen
