import SchemaCodegen.Declaration.CSharp
import SchemaCodegen.Declaration.Java
import SchemaCodegen.Declaration.TypeScript
import SchemaCodegen.Proofs.Nesting.Basic

/-!
# Well-nested declarations

A declaration is well nested if its parts are: its name, the types and names of
its members, and what stands above them. What remains are the brackets that the
declaration itself opens and closes, with members between them and without.
-/

namespace SchemaCodegen

/-! ## Java -/

namespace Java

theorem nested_annotationLines {tags : List AnnotationTag} (h : ∀ tag ∈ tags, WellNested tag.text) :
    Fragment.Nested (annotationLines tags) := by
  apply Fragment.nested_map
  intro tag htag
  exact Fragment.nested_line (h tag htag)

structure Field.Nested (f : Field) : Prop where
  name : WellNested f.name
  type : WellNested f.type
  annotations : ∀ tag ∈ f.annotations, WellNested tag.text

theorem Field.Nested.fieldLines {f : Field} (h : f.Nested) :
    Fragment.Nested (ClassDecl.fieldLines f) := by
  have htype : WellNested ("private " ++ f.type) := WellNested.append (by decide) h.type
  have hname : WellNested ("private " ++ f.type ++ " " ++ f.name) :=
    (htype.append (by decide)).append h.name
  apply Fragment.Nested.append
  · exact nested_annotationLines h.annotations
  · exact Fragment.nested_line (hname.append (by decide))

theorem Field.Nested.componentLines {f : Field} (h : f.Nested) {separator : String}
    (hseparator : WellNested separator) :
    Fragment.Nested (RecordDecl.componentLines (f, separator)) := by
  have hname : WellNested (f.type ++ " " ++ f.name) := (h.type.append (by decide)).append h.name
  apply Fragment.Nested.append
  · exact nested_annotationLines h.annotations
  · exact Fragment.nested_line (hname.append hseparator)

theorem ClassDecl.leaves_header {d : ClassDecl} (hname : WellNested d.name)
    (himplements : ∀ s ∈ d.implements, WellNested s) : Leaves [] d.header ['}'] := by
  have hstart : WellNested ("public class " ++ d.name) := WellNested.append (by decide) hname
  have hopen : Leaves [] " \x7b" ['}'] := by decide
  unfold header
  split
  · exact Leaves.append hstart hopen
  · have hlist : WellNested (", ".intercalate d.implements) :=
      WellNested.intercalate (by decide) himplements
    exact Leaves.append ((hstart.append (by decide)).append hlist) hopen

theorem ClassDecl.nested_fragments {d : ClassDecl} (hname : WellNested d.name)
    (hannotations : ∀ tag ∈ d.annotations, WellNested tag.text)
    (himplements : ∀ s ∈ d.implements, WellNested s) (hfields : ∀ f ∈ d.fields, f.Nested) :
    Fragment.Nested d.fragments := by
  have hheader := leaves_header hname himplements
  have hclose : Leaves ['}'] "\x7d" [] := by decide
  apply Fragment.Nested.append
  · exact nested_annotationLines hannotations
  · split
    · -- Without fields, one line opens and closes the class.
      exact Fragment.nested_line (hheader.append hclose)
    · apply Fragment.nested_block hheader _ hclose
      apply Fragment.nested_joinGroups_map
      intro f hf
      exact (hfields f hf).fieldLines

theorem RecordDecl.nested_fragments {d : RecordDecl} (hname : WellNested d.name)
    (hannotations : ∀ tag ∈ d.annotations, WellNested tag.text)
    (hcomponents : ∀ f ∈ d.components, f.Nested) : Fragment.Nested d.fragments := by
  have hstart : WellNested ("public record " ++ d.name) := WellNested.append (by decide) hname
  have hopen : Leaves [] "(" [')'] := by decide
  have hclose : Leaves [')'] ") \x7b\x7d" [] := by decide
  apply Fragment.Nested.append
  · exact nested_annotationLines hannotations
  · split
    · exact Fragment.nested_line (hstart.append (by decide))
    · apply Fragment.nested_block (Leaves.append hstart hopen) _ hclose
      apply Fragment.nested_joinGroups_separated (by decide)
      intro f hf separator hseparator
      exact (hcomponents f hf).componentLines hseparator

end Java

/-! ## C# -/

namespace CSharp

namespace AttributeTag

/-- The names that attributes carry are well nested between their quotes. -/
def Nested : AttributeTag → Prop
  | jsonPropertyName name => WellNested (Text.literal Text.escapeQuote name)

theorem Nested.body {a : AttributeTag} (h : a.Nested) : WellNested a.body := by
  cases a with
  | jsonPropertyName name =>
      have hopen : Leaves [] "JsonPropertyName(" [')'] := by decide
      exact WellNested.enclose h hopen (by decide)

theorem Nested.text {a : AttributeTag} (h : a.Nested) : WellNested a.text := by
  have hopen : Leaves [] "[" [']'] := by decide
  exact h.body.enclose hopen (by decide)

theorem Nested.targeted {a : AttributeTag} (h : a.Nested) {target : String}
    (htarget : WellNested target) : WellNested (a.targeted target) := by
  have hopen : Leaves [] "[" [']'] := by decide
  have hstart : Leaves [] ("[" ++ target ++ ": ") [']'] := htarget.enclose hopen (by decide)
  exact h.body.enclose hstart (by decide)

theorem wellNested_requiredNamespace (a : AttributeTag) : WellNested a.requiredNamespace := by
  cases a with
  | jsonPropertyName name =>
      show WellNested "System.Text.Json.Serialization"
      decide

end AttributeTag

theorem nested_usingLines (attributes : List AttributeTag) :
    Fragment.Nested (usingLines attributes) := by
  unfold usingLines
  cases hneeded : namespaces attributes with
  | nil => exact Fragment.nested_nil
  | cons first rest =>
      apply Fragment.Nested.append _ Fragment.nested_blank
      apply Fragment.nested_map
      intro n hn
      rw [← hneeded, namespaces, List.mem_eraseDups] at hn
      rcases List.mem_map.mp hn with ⟨a, -, rfl⟩
      have hname : WellNested ("using " ++ a.requiredNamespace) :=
        WellNested.append (by decide) a.wellNested_requiredNamespace
      exact Fragment.nested_line (hname.append (by decide))

structure Member.Nested (m : Member) : Prop where
  attributes : ∀ a ∈ m.attributes, a.Nested
  declaration : WellNested m.declaration

theorem Member.Nested.memberLines {m : Member} (h : m.Nested) :
    Fragment.Nested (TypeDecl.memberLines m) := by
  apply Fragment.Nested.append
  · apply Fragment.nested_map
    intro a ha
    exact Fragment.nested_line (h.attributes a ha).text
  · exact Fragment.nested_line h.declaration

theorem TypeDecl.nested_fragments {d : TypeDecl} (hname : WellNested d.name)
    (hmembers : ∀ m ∈ d.members, m.Nested) : Fragment.Nested d.fragments := by
  have hkeyword : WellNested ("public " ++ d.keyword.text) := by
    cases d.keyword <;> decide
  have hheader : WellNested ("public " ++ d.keyword.text ++ " " ++ d.name) :=
    (hkeyword.append (by decide)).append hname
  have hopen : Leaves [] "\x7b" ['}'] := by decide
  have hclose : Leaves ['}'] "\x7d" [] := by decide
  have hbody : Fragment.Nested (Fragment.joinGroups d.spaced (d.members.map memberLines)) := by
    apply Fragment.nested_joinGroups_map
    intro m hm
    exact (hmembers m hm).memberLines
  apply (nested_usingLines _).append
  apply (Fragment.nested_line hheader).append
  exact Fragment.nested_block hopen hbody hclose

structure Parameter.Nested (p : Parameter) : Prop where
  type : WellNested p.type
  name : WellNested p.name
  attributes : ∀ a ∈ p.attributes, a.Nested

theorem Parameter.Nested.parameterLine {p : Parameter} (h : p.Nested) {separator : String}
    (hseparator : WellNested separator) :
    Fragment.Nested [PositionalRecord.parameterLine (p, separator)] := by
  have hattributes :
      WellNested (String.join (p.attributes.map fun a => a.targeted "property" ++ " ")) := by
    apply wellNested_join
    intro s hs
    rcases List.mem_map.mp hs with ⟨a, ha, rfl⟩
    exact ((h.attributes a ha).targeted (by decide)).append (by decide)
  have hname := ((hattributes.append h.type).append (by decide : WellNested " ")).append h.name
  exact Fragment.nested_line (hname.append hseparator)

theorem PositionalRecord.nested_fragments {d : PositionalRecord} (hname : WellNested d.name)
    (hparameters : ∀ p ∈ d.parameters, p.Nested) : Fragment.Nested d.fragments := by
  have hstart : WellNested ("public record " ++ d.name) := WellNested.append (by decide) hname
  have hopen : Leaves [] "(" [')'] := by decide
  have hclose : Leaves [')'] ");" [] := by decide
  apply (nested_usingLines _).append
  split
  · exact Fragment.nested_line (hstart.append (by decide))
  · apply Fragment.nested_block (Leaves.append hstart hopen) _ hclose
    apply Fragment.nested_joinGroups_separated (by decide)
    intro parameter hparameter separator hseparator
    exact (hparameters parameter hparameter).parameterLine hseparator

end CSharp

/-! ## TypeScript -/

namespace TypeScript

structure Property.Nested (p : Property) : Prop where
  name : WellNested p.name
  type : WellNested p.type
  docs : ∀ doc ∈ p.docs, WellNested doc

theorem Property.Nested.lines {p : Property} (h : p.Nested) : Fragment.Nested p.lines := by
  have hmark : WellNested (if p.readonly then "readonly " else "") := by
    split <;> decide
  have hoptional : WellNested (if p.isOptional then "?" else "") := by
    split <;> decide
  have hname := (hmark.append h.name).append hoptional
  apply Fragment.Nested.append
  · apply Fragment.nested_map
    intro doc hdoc
    exact Fragment.nested_doc (h.docs doc hdoc)
  · exact Fragment.nested_line (((hname.append (by decide)).append h.type).append (by decide))

theorem ObjectDecl.leaves_header {d : ObjectDecl} (hname : WellNested d.name) :
    Leaves [] d.header ['}'] := by
  have hstart : WellNested ((if d.exported then d.kind.exportText else "") ++ d.kind.keyword) := by
    cases d.exported <;> cases d.kind <;> decide
  have hopen : Leaves [] (if d.kind = .type then " = \x7b" else " \x7b") ['}'] := by
    split <;> decide
  exact Leaves.append ((hstart.append (by decide)).append hname) hopen

theorem ObjectDecl.leaves_close (d : ObjectDecl) : Leaves ['}'] d.close [] := by
  unfold close
  split <;> decide

theorem ObjectDecl.nested_fragments {d : ObjectDecl} (hname : WellNested d.name)
    (hproperties : ∀ p ∈ d.properties, p.Nested) : Fragment.Nested d.fragments := by
  unfold fragments
  split
  · exact Fragment.nested_line ((leaves_header hname).append d.leaves_close)
  · apply Fragment.nested_block (leaves_header hname) _ d.leaves_close
    apply Fragment.nested_joinGroups_map
    intro p hp
    exact (hproperties p hp).lines

end TypeScript

end SchemaCodegen
