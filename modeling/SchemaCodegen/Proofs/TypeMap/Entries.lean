import SchemaCodegen.Emission.Zod
import SchemaCodegen.TypeMap.CSharp
import SchemaCodegen.TypeMap.Java

/-!
# What all types of a table have in common

Mapping a column's type ends at an entry of the table, at the unknown type, or
at an array over one of these. A property of types that these have and that
array forms keep holds of the type of every column, whatever its raw type is.
How a type starts is such a property: with a letter, and in C# with one that
starts no import. The field of a schema goes on from its type by calls, and a
property that these keep holds of the field.
-/

namespace SchemaCodegen

/-- Whether the text starts with a character of the class. -/
def leadsWith (p : Char → Bool) (s : String) : Bool := s.toList.head?.any p

theorem leadsWith_iff {p : Char → Bool} {s : String} :
    leadsWith p s = true ↔ ∃ c rest, s.toList = c :: rest ∧ p c = true := by
  unfold leadsWith
  cases s.toList with
  | nil => simp
  | cons c rest => simp

theorem leadsWith_append {p : Char → Bool} {s : String} (h : leadsWith p s = true) (t : String) :
    leadsWith p (s ++ t) = true := by
  obtain ⟨c, rest, hs, hc⟩ := leadsWith_iff.mp h
  apply leadsWith_iff.mpr
  refine ⟨c, rest ++ t.toList, ?_, hc⟩
  simp [hs]

theorem leadsWith_mono {p q : Char → Bool} (hpq : ∀ c, p c = true → q c = true) {s : String}
    (h : leadsWith p s = true) : leadsWith q s = true := by
  obtain ⟨c, rest, hs, hc⟩ := leadsWith_iff.mp h
  apply leadsWith_iff.mpr
  exact ⟨c, rest, hs, hpq c hc⟩

namespace TypeName

/-- Whether the engine reports an array type. -/
def isArray (engine : Engine) (raw : String) : Bool :=
  (arrayElement? engine (normalize raw)).isSome

/-- The name that a table is asked for: that of the element if the type is an array. -/
def scalarName (engine : Engine) (raw : String) : String :=
  (arrayElement? engine (normalize raw)).getD (normalize raw)

end TypeName

namespace TypeTable

/-- A table sees of a raw type the scalar name, and whether it is an array. -/
theorem mapType_eq (t : TypeTable) (engine : Engine) (raw : String) :
    t.mapType engine raw =
      if TypeName.isArray engine raw then
        t.arrayOf (t.scalar engine (TypeName.scalarName engine raw))
      else t.scalar engine (TypeName.scalarName engine raw) := by
  cases h : TypeName.arrayElement? engine (TypeName.normalize raw) with
  | none => simp [mapType, TypeName.isArray, TypeName.scalarName, h]
  | some element => simp [mapType, TypeName.isArray, TypeName.scalarName, h]

/-- What holds of every entry of a table and of its unknown type holds of all scalar types. -/
theorem scalar_induction {P : String → Prop} {t : TypeTable} (hunknown : P t.unknown)
    (hentries : ∀ engine, ∀ entry ∈ t.entries engine, P entry.2) (engine : Engine)
    (name : String) : P (t.scalar engine name) := by
  unfold scalar scalar?
  cases hfind : (t.entries engine).find? (·.1.contains name) with
  | none => exact hunknown
  | some entry => exact hentries engine entry (List.mem_of_find?_eq_some hfind)

/-- What holds of these and of the array types over them holds of the type of every column. -/
theorem mapType_of_scalar {P : String → Prop} {t : TypeTable}
    (hunknown : P t.unknown ∧ P (t.arrayOf t.unknown))
    (hentries : ∀ engine, ∀ entry ∈ t.entries engine, P entry.2 ∧ P (t.arrayOf entry.2))
    (engine : Engine) (raw : String) : P (t.mapType engine raw) := by
  have hscalar := scalar_induction (P := fun type => P type ∧ P (t.arrayOf type)) hunknown
    hentries engine
  rw [mapType_eq]
  split
  · exact (hscalar _).2
  · exact (hscalar _).1

/-- It is enough that array types have it if their elements do. -/
theorem mapType_induction {P : String → Prop} {t : TypeTable} (hunknown : P t.unknown)
    (hentries : ∀ engine, ∀ entry ∈ t.entries engine, P entry.2)
    (harray : ∀ element, P element → P (t.arrayOf element)) (engine : Engine) (raw : String) :
    P (t.mapType engine raw) := by
  apply mapType_of_scalar
  · exact ⟨hunknown, harray _ hunknown⟩
  · intro engine entry hentry
    have hscalar := hentries engine entry hentry
    exact ⟨hscalar, harray _ hscalar⟩

theorem java_leadsWith (engine : Engine) (raw : String) :
    leadsWith Char.isAlpha (java.mapType engine raw) = true := by
  refine mapType_induction (P := fun type => leadsWith Char.isAlpha type = true)
    (by decide) ?_ ?_ engine raw
  · intro engine
    cases engine <;> decide
  · intro element h
    exact leadsWith_append h "[]"

/-- A letter that does not start the word `using`. -/
def startsNoImport (c : Char) : Bool := c.isAlpha && c != 'u'

theorem csharp_leadsWith (engine : Engine) (raw : String) :
    leadsWith startsNoImport (csharp.mapType engine raw) = true := by
  refine mapType_induction (P := fun type => leadsWith startsNoImport type = true)
    (by decide) ?_ ?_ engine raw
  · intro engine
    cases engine <;> decide
  · intro element h
    exact leadsWith_append h "[]"

end TypeTable

/-! ## Fields of a schema -/

namespace Zod

open TypeScript

/-- The methods that a field calls without arguments. -/
def plainMethods : List String := ["trim", "nullable", "optional", "nullish"]

/-- What holds of a type in a schema and is kept by calls holds of the field of every column. -/
theorem fieldChain_induction {P : CallChain → Prop} {engine : Engine} {c : Column}
    (hstart : P ⟨"z." ++ TypeTable.zod.mapType engine c.rawType⟩)
    (hcall : ∀ chain, P chain → ∀ method ∈ plainMethods, P (chain.call method []))
    (hmax : ∀ chain, P chain → ∀ n : Nat, P (chain.call "max" [toString n]))
    (o : ZodOptions) : P (fieldChain engine o c) := by
  have hcallIf : ∀ chain, P chain → ∀ condition, ∀ method ∈ plainMethods,
      P (chain.callIf condition method) := by
    intro chain h condition method hmethod
    cases condition with
    | false => exact h
    | true => exact hcall chain h method hmethod
  have hbound : ∀ chain, P chain → ∀ bound : Option Nat,
      P (chain.callWith "max" (bound.map toString)) := by
    intro chain h bound
    cases bound with
    | none => exact h
    | some n => exact hmax chain h n
  have hrefined : P (refine o (TypeTable.zod.mapType engine c.rawType) c
      ⟨"z." ++ TypeTable.zod.mapType engine c.rawType⟩) := by
    unfold refine fieldBound
    split
    · exact hbound _ (hcallIf _ hstart _ "trim" (by decide)) c.maxLength
    · exact hcallIf _ hstart _ "trim" (by decide)
  unfold fieldChain admitMissing
  split
  · exact hcall _ hrefined "nullish" (by decide)
  · exact hcallIf _ (hcallIf _ hrefined _ "nullable" (by decide)) _ "optional" (by decide)

end Zod

end SchemaCodegen
