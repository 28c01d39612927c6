import SchemaCodegen.Declaration.CSharp
import SchemaCodegen.Declaration.Java
import SchemaCodegen.Proofs.Layout.Lines

/-!
# Declarations as lines

A declaration describes itself by fragments, and each of its members is a group of
lines. Here the declarations that put commas between their members are written as
the lines that are printed for them.
-/

namespace SchemaCodegen

open Fragment

/-! ## Java -/

namespace Java

theorem fieldLines_eq (f : Field) :
    ClassDecl.fieldLines f =
      (f.annotations.map (·.text) ++ ["private " ++ f.type ++ " " ++ f.name ++ ";"]).map .line := by
  rw [List.map_append, List.map_map]
  rfl

theorem componentLines_eq (component : Field × String) :
    RecordDecl.componentLines component =
      (component.1.annotations.map (·.text) ++
        [component.1.type ++ " " ++ component.1.name ++ component.2]).map .line := by
  rw [List.map_append, List.map_map]
  rfl

theorem allLines_annotationLines (tags : List AnnotationTag) :
    allLines .four 0 (annotationLines tags) = tags.map (·.text) := by
  have htexts : annotationLines tags = (tags.map (·.text)).map .line := by
    rw [annotationLines, List.map_map]
    rfl
  rw [htexts, allLines_map_line]
  simp [Indent.atDepth]

/-- A class is its annotations, and its fields in between two lines. -/
theorem ClassDecl.allLines_fragments (d : ClassDecl) :
    allLines .four 0 d.fragments =
      d.annotations.map (·.text) ++
        if d.fields.isEmpty then [d.header ++ "\x7d"]
        else
          d.header ::
            (joinLines d.spaced
                (d.fields.map fun f =>
                  (f.annotations.map (·.text) ++
                    ["private " ++ f.type ++ " " ++ f.name ++ ";"]).map ("    " ++ ·)) ++
              ["\x7d"]) := by
  have hbody : allLines .four 1 (joinGroups d.spaced (d.fields.map fieldLines)) =
      joinLines d.spaced (d.fields.map fun f =>
        (f.annotations.map (·.text) ++
          ["private " ++ f.type ++ " " ++ f.name ++ ";"]).map ("    " ++ ·)) := by
    simp only [allLines_joinGroups, List.map_map, Function.comp_def, fieldLines_eq,
      allLines_map_line, Indent.atDepth_one, Indent.text]
  rw [fragments, allLines_append, allLines_annotationLines, allLines_line_or_block, hbody]

/-- Every field of a class is declared on a line of its own. -/
theorem ClassDecl.line_mem {d : ClassDecl} {f : Field} (h : f ∈ d.fields) :
    "    private " ++ f.type ++ " " ++ f.name ++ ";" ∈ allLines .four 0 d.fragments := by
  have hfields : d.fields.isEmpty = false :=
    List.isEmpty_eq_false_iff.mpr (List.ne_nil_of_mem h)
  have hlast : "private " ++ f.type ++ " " ++ f.name ++ ";" ∈
      f.annotations.map (·.text) ++ ["private " ++ f.type ++ " " ++ f.name ++ ";"] :=
    List.mem_append_right _ (List.mem_singleton_self _)
  have hindented : "    private " ++ f.type ++ " " ++ f.name ++ ";" =
      "    " ++ ("private " ++ f.type ++ " " ++ f.name ++ ";") := by
    have hopen : "    private " = "    " ++ "private " := rfl
    simp only [hopen, String.append_assoc]
  rw [hindented, allLines_fragments, hfields, if_neg Bool.false_ne_true]
  apply List.mem_append_right
  apply List.mem_cons_of_mem
  apply List.mem_append_left
  exact mem_joinLines (List.mem_map_of_mem h) (List.mem_map_of_mem hlast) d.spaced

/-- A record is its annotations, and its components with their separators in between two lines. -/
theorem RecordDecl.allLines_fragments (r : RecordDecl) :
    allLines .four 0 r.fragments =
      r.annotations.map (·.text) ++
        if r.components.isEmpty then ["public record " ++ r.name ++ "() \x7b\x7d"]
        else
          ("public record " ++ r.name ++ "(") ::
            (joinLines r.spaced
                ((withSeparators "," r.components).map fun component =>
                  (component.1.annotations.map (·.text) ++
                    [component.1.type ++ " " ++ component.1.name ++ component.2]).map
                      ("    " ++ ·)) ++
              [") \x7b\x7d"]) := by
  have hbody : allLines .four 1
        (joinGroups r.spaced ((withSeparators "," r.components).map componentLines)) =
      joinLines r.spaced ((withSeparators "," r.components).map fun component =>
        (component.1.annotations.map (·.text) ++
          [component.1.type ++ " " ++ component.1.name ++ component.2]).map ("    " ++ ·)) := by
    simp only [allLines_joinGroups, List.map_map, Function.comp_def, componentLines_eq,
      allLines_map_line, Indent.atDepth_one, Indent.text]
  rw [fragments, allLines_append, allLines_annotationLines, allLines_line_or_block, hbody]

end Java

/-! ## C# -/

namespace CSharp

theorem memberLines_eq (m : Member) :
    TypeDecl.memberLines m = (m.attributes.map (·.text) ++ [m.declaration]).map .line := by
  rw [List.map_append, List.map_map]
  rfl

theorem renderAll_memberLines (unit : Indent) (depth : Nat) (m : Member) :
    renderAll unit depth (TypeDecl.memberLines m) =
      String.join ((m.attributes.map (·.text) ++ [m.declaration]).map (unit.lineAt depth)) := by
  simp only [memberLines_eq, renderAll_map_line]

/-- A parameter as it is declared, with the attributes of its property in front. -/
def Parameter.declared (p : Parameter) : String :=
  String.join (p.attributes.map fun a => a.targeted "property" ++ " ") ++ p.type ++ " " ++ p.name

/-- A positional record is its imports, and its parameters with their separators in between two
lines. -/
theorem PositionalRecord.allLines_fragments (r : PositionalRecord) :
    allLines .four 0 r.fragments =
      allLines .four 0 (usingLines (r.parameters.flatMap (·.attributes))) ++
        if r.parameters.isEmpty then ["public record " ++ r.name ++ "();"]
        else
          ("public record " ++ r.name ++ "(") ::
            (joinLines r.spaced
                ((withSeparators "," r.parameters).map fun parameter =>
                  ["    " ++ (parameter.1.declared ++ parameter.2)]) ++
              [");"]) := by
  have hbody : allLines .four 1
        (joinGroups r.spaced
          ((withSeparators "," r.parameters).map fun p => [parameterLine p])) =
      joinLines r.spaced ((withSeparators "," r.parameters).map fun parameter =>
        ["    " ++ (parameter.1.declared ++ parameter.2)]) := by
    simp only [allLines_joinGroups, List.map_map, Function.comp_def]
    rfl
  rw [fragments, allLines_append, allLines_line_or_block, hbody]

end CSharp

end SchemaCodegen
