import SchemaCodegen.Proofs.Emission.Acceptance
import SchemaCodegen.Proofs.Mapper.Fit

/-!
# What a mapper depends on

A mapper is given whole columns and a context that has the affixed type name and the
engine in it. Of a column it sees the name and whether it is a key, and of the
context the table. Statements write their columns as bindings, which come from the
names alone, and which columns a statement takes is decided by the name and the key
flag. So two runs that agree there agree in their text.
-/

namespace SchemaCodegen

/-- What a mapper sees of a column. -/
structure Outline where
  name : String
  isKey : Bool
deriving DecidableEq, Repr

def Column.outline (c : Column) : Outline := ⟨c.name, c.isKey⟩

namespace Mapper

variable {columns others : List Column}

/-! ## Bindings of outlines -/

/-- The column of an outline bound to its Java field. -/
def bindOutline (o : Outline) : Binding := ⟨o.name, Naming.javaField o.name⟩

/-- Columns that are chosen by their outlines are bound as the chosen outlines are. -/
theorem map_bind_filter (choose : Outline → Bool) (columns : List Column) :
    (columns.filter fun c => choose c.outline).map bind =
      ((columns.map Column.outline).filter choose).map bindOutline := by
  rw [List.filter_map, List.map_map]
  rfl

/-- Two tables have the same bindings in each of their sets. -/
structure SameBindings (sets others : ColumnSets) : Prop where
  selectable : sets.selectable.map bind = others.selectable.map bind
  insertable : sets.insertable.map bind = others.insertable.map bind
  keys : sets.keys.map bind = others.keys.map bind

theorem sameBindings_of_outlines
    (h : columns.map Column.outline = others.map Column.outline) :
    SameBindings (.of columns) (.of others) where
  selectable := by
    have hall := congrArg (List.map bindOutline) h
    rwa [List.map_map, List.map_map] at hall
  insertable := by
    have hchosen := map_bind_filter fun o => !o.isKey && !isAudit o.name
    rw [ColumnSets.of, ColumnSets.of]
    exact (hchosen columns).trans (h ▸ (hchosen others).symm)
  keys := by
    have hchosen := map_bind_filter Outline.isKey
    rw [ColumnSets.of, ColumnSets.of]
    exact (hchosen columns).trans (h ▸ (hchosen others).symm)

/-! ## Statements -/

/-- A select shows of its columns what their bindings have of them. -/
theorem selectLines_eq (columns : List Column) :
    (if columns.isEmpty then ["  *"] else listLines (columns.map (·.name))) =
      if (columns.map bind).isEmpty then ["  *"]
      else listLines ((columns.map bind).map Binding.column) := by
  rw [List.isEmpty_map, List.map_map]
  rfl

theorem SameBindings.sql_eq {sets others : ColumnSets} (h : SameBindings sets others)
    (table : String) (s : Statement) : s.sql table sets = s.sql table others := by
  cases s with
  | select => simp only [Statement.sql, selectLines_eq, h.selectable]
  | insert => simp only [Statement.sql, insertColumns_eq, insertValues_eq, h.insertable]
  | update =>
      simp only [Statement.sql, assignments_eq, whereLines_eq, keyConditions_eq, h.insertable,
        h.keys]
  | delete => simp only [Statement.sql, whereLines_eq, keyConditions_eq, h.keys]

/-- The entries of a mapper are the same for columns with the same outlines. -/
theorem entries_of_outlines (h : columns.map Column.outline = others.map Column.outline)
    (table : String) (o : MapperOptions) : entries table columns o = entries table others o := by
  rw [entries, entries]
  apply List.map_congr_left
  intro s _
  unfold Entry.of
  rw [(sameBindings_of_outlines h).sql_eq]

end Mapper

/-! ## Two runs -/

open Mapper

/-- The mappers under given options. -/
def MapperOptions.mappers (o : MapperOptions) : List Configured :=
  [.javaMapperXml o, .javaMapperInterface o]

/-- A payload that configures one of the two mapper targets configures a mapper. -/
theorem exists_mappers_of_configure {t : Target}
    (ht : t ∈ [Target.javaMapperXml, .javaMapperInterface]) {payload : Document.Value}
    {c : Configured} (h : t.configure payload = .ok c) : ∃ o : MapperOptions, c ∈ o.mappers := by
  have hmap : ∀ {f : MapperOptions → Configured} {decoded : Except GenerationError MapperOptions},
      decoded.map f = .ok c → ∃ o, c = f o := by
    intro f decoded hdecoded
    cases decoded with
    | error failure => cases hdecoded
    | ok o =>
        cases hdecoded
        exact ⟨o, rfl⟩
  simp only [List.mem_cons, List.not_mem_nil, or_false] at ht
  rcases ht with rfl | rfl
  · obtain ⟨o, rfl⟩ := hmap h
    exact ⟨o, List.mem_cons_self⟩
  · obtain ⟨o, rfl⟩ := hmap h
    exact ⟨o, List.mem_cons_of_mem _ List.mem_cons_self⟩

theorem Configured.source_of_outlines {columns others : List Column}
    (h : columns.map Column.outline = others.map Column.outline) {context other : Context}
    (htable : context.table = other.table) {o : MapperOptions} {c : Configured}
    (hc : c ∈ o.mappers) : c.source context columns = c.source other others := by
  simp only [MapperOptions.mappers, List.mem_cons, List.not_mem_nil, or_false] at hc
  rcases hc with rfl | rfl
  · rw [source_mapperXml, source_mapperXml, entries_of_outlines h, htable]
  · rw [source_mapperInterface, source_mapperInterface, entries_of_outlines h, htable]

/-- **A mapper depends on the names and the keys of its columns, and on the name of its table.**
Two runs that agree there end in the same text for both kinds of mapper, whatever their engines and
affixes are and whatever else is known of the columns. This is so for every value of the options,
and for every payload that is to be decoded to one. -/
theorem mappers_depend_on_outlines (table : String) {columns others : List Column}
    (hcolumns : Ascending columns) (hothers : Ascending others)
    (houtlines : columns.map Column.outline = others.map Column.outline)
    (engine otherEngine : Engine) (affixes otherAffixes : Naming.Affixes) :
    (∀ o : MapperOptions, ∀ c ∈ o.mappers, ∃ text,
      c.generate (.of table engine affixes) (columns.map .ok) = .ok text ∧
      c.generate (.of table otherEngine otherAffixes) (others.map .ok) = .ok text) ∧
    ∀ t ∈ [Target.javaMapperXml, .javaMapperInterface], ∀ payload,
      t.generate (.of table engine affixes) payload (columns.map .ok) =
        t.generate (.of table otherEngine otherAffixes) payload (others.map .ok) := by
  have hboth : ∀ o : MapperOptions, ∀ c ∈ o.mappers, ∃ text,
      c.generate (.of table engine affixes) (columns.map .ok) = .ok text ∧
      c.generate (.of table otherEngine otherAffixes) (others.map .ok) = .ok text := by
    intro o c hc
    refine ⟨c.source (.of table engine affixes) columns, ?_, ?_⟩
    · exact Configured.generate_of_ascending c _ hcolumns
    · rw [Configured.generate_of_ascending c _ hothers]
      have htable : (Context.of table otherEngine otherAffixes).table =
          (Context.of table engine affixes).table := rfl
      rw [Configured.source_of_outlines houtlines.symm htable hc]
  refine ⟨hboth, ?_⟩
  intro t ht payload
  -- the payload is decoded before columns are seen
  cases hconfigured : t.configure payload with
  | error failure => rw [Target.generate, Target.generate, hconfigured]
  | ok c =>
      obtain ⟨o, hc⟩ := exists_mappers_of_configure ht hconfigured
      obtain ⟨text, htext, htext'⟩ := hboth o c hc
      rw [Target.generate_of_configure hconfigured, Target.generate_of_configure hconfigured, htext,
        htext']

/-- A table with a key, a reserved word and an audit column, as two engines report it: their
types, nullability, lengths, comments and ordinals have nothing in common. -/
theorem two_engines_one_mapper :
    let columns := [(Column.new 1 "line_no" "bigint").asKey,
      (Column.new 2 "class" "varchar(20)").withComment "the \"kind\"",
      Column.new 3 "INSERT_DTM" "datetime"]
    let others := [((Column.new 4 "line_no" "_text").asKey.withMaxLength 8).asNullable,
      Column.new 7 "class" "uuid", (Column.new 9 "INSERT_DTM" "geometry(1)").asNullable]
    Ascending columns ∧ Ascending others ∧
      columns.map Column.outline = others.map Column.outline ∧
      ∃ text,
        (Configured.javaMapperXml ⟨true, false, false, false, false⟩).generate
          (.of "order_line" .mySql ⟨"Acme", ""⟩) (columns.map .ok) = .ok text ∧
        (Configured.javaMapperXml ⟨true, false, false, false, false⟩).generate
          (.of "order_line" .postgres ⟨"", "Entity"⟩) (others.map .ok) = .ok text := by
  intro columns others
  have hcolumns : Ascending columns := by decide
  have hothers : Ascending others := by decide
  have houtlines : columns.map Column.outline = others.map Column.outline := by decide
  have hruns := mappers_depend_on_outlines "order_line" hcolumns hothers houtlines .mySql .postgres
    ⟨"Acme", ""⟩ ⟨"", "Entity"⟩
  refine ⟨hcolumns, hothers, houtlines, ?_⟩
  exact hruns.1 ⟨true, false, false, false, false⟩ _ List.mem_cons_self

end SchemaCodegen
