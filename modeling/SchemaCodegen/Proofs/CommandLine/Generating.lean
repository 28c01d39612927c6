import SchemaCodegen.Proofs.CommandLine.Writing
import SchemaCodegen.Proofs.Generation.Outcome
import SchemaCodegen.Proofs.Layout.Lines

/-!
# The generate command

The command goes through its stages in order: the request is read and decoded,
then the schema, then all tables are generated. `Stops` says which stage is the
first to fail, and `Generates` what comes of all of them. Nothing is printed or
written before the last stage is done, so a command that stops leaves all files
as they were; one that does not stop prints its text, or puts this same text
into the output file and reports what is in it.
-/

namespace SchemaCodegen.CommandLine

open Document

/-! ## Arguments -/

/-- A text that stands for a value wherever a value may stand. -/
def IsValue (text : String) : Prop := text ≠ "" ∧ looksLikeOption text = false

instance (text : String) : Decidable (IsValue text) := inferInstanceAs (Decidable (_ ∧ _))

def generateArguments (request : String) (schema output : Option String) : List String :=
  "generate" :: request :: ((schema.elim [] fun path => ["--schema", path]) ++
    output.elim [] fun path => ["--output", path])

theorem readArgument_of_isValue {text : String} (h : IsValue text) (parameters : List Parameter)
    (allowsVersion : Bool) : readArgument parameters allowsVersion text = .value text := by
  have hplain := h.2
  unfold looksLikeOption at hplain
  unfold readArgument
  split at hplain
  · cases hplain
  · rename_i hshort
    split
    · rename_i htext
      exact absurd htext (hshort '-' [])
    · rename_i cs _ htext
      exact absurd htext (hshort '-' cs)
    · rename_i c cs _ _ htext
      exact absurd htext (hshort c cs)
    · rfl

/-- An option that is spelled out takes up the argument after it. -/
theorem readAfter_parameter {verb : Verb} {p : Parameter} {name path : String} {g later : Given}
    (hname : readArgument verb.parameters false name = .awaits p) (hpath : IsValue path)
    (hset : g.setParameter p path = some later) (rest : List String) :
    readAfter verb g (name :: path :: rest) = readAfter verb later rest := by
  rw [readAfter, hname]
  simp only [hpath.2, hset, Bool.false_eq_true, if_false]

theorem setParameter_schema {path : String} (h : IsValue path) (values : List String)
    (output : Option String) :
    Given.setParameter ⟨values, none, output⟩ .schema path = some ⟨values, some path, output⟩ := by
  simp [Given.setParameter, h.1]

theorem setParameter_output {path : String} (h : IsValue path) (values : List String)
    (schema : Option String) :
    Given.setParameter ⟨values, schema, none⟩ .output path = some ⟨values, schema, some path⟩ := by
  simp [Given.setParameter, h.1]

/-- What is spelled out is read as it is meant. -/
theorem readArguments_generateArguments {request : String} {schema output : Option String}
    (hrequest : IsValue request) (hschema : ∀ path ∈ schema, IsValue path)
    (houtput : ∀ path ∈ output, IsValue path) :
    readArguments (generateArguments request schema output) =
      .run (.generate request (schema.getD "schema.toml") output) := by
  have hverb : readArgument [] true "generate" = .value "generate" := by decide
  have hlong : readArgument Verb.generate.parameters false "--schema" = .awaits .schema := by decide
  have hout : readArgument Verb.generate.parameters false "--output" = .awaits .output := by decide
  have hvalue := readArgument_of_isValue hrequest Verb.generate.parameters false
  have hadd : Given.addValue ⟨[], none, none⟩ .generate request =
      some ⟨[request], none, none⟩ := by
    simp [Given.addValue, Verb.valueCount, hrequest.1]
  have hrun : readArguments (generateArguments request schema output) =
      readAfter .generate ⟨[], none, none⟩ (generateArguments request schema output).tail := by
    rw [generateArguments, readArguments, hverb]
    rfl
  rw [hrun, generateArguments, List.tail_cons, readAfter, hvalue]
  simp only [hadd]
  -- the request is taken up; what is left are the options, each given once
  cases schema with
  | none =>
      cases output with
      | none => rfl
      | some path =>
          have hpath := houtput path rfl
          exact readAfter_parameter hout hpath (setParameter_output hpath [request] none) []
  | some file =>
      have hfile := hschema file rfl
      rw [Option.elim_some, List.cons_append, List.singleton_append,
        readAfter_parameter hlong hfile (setParameter_schema hfile [request] none)]
      cases output with
      | none => rfl
      | some path =>
          have hpath := houtput path rfl
          exact readAfter_parameter hout hpath (setParameter_output hpath [request] (some file)) []

/-! ## Stages -/

namespace Store

/-- The file at a path holds a request, in the format that its name tells. -/
def HoldsRequest (s : Store) (path : String) (r : Request) : Prop :=
  ∃ text, s.text? path = some text ∧
    Request.ofSource ⟨path, text⟩ (Format.ofPath path) = .ok r

def HoldsSchema (s : Store) (path : String) (tables : Schema) : Prop :=
  ∃ text, s.text? path = some text ∧ Schema.ofSource ⟨path, text⟩ = .ok tables

/-- The first stage that fails over a request file and a schema file, by its failure. -/
inductive Stops (s : Store) (request schema : String) : Failure → Prop where
  | unreadRequest (file : s.text? request = none) : Stops s request schema (.read (.noText request))
  | undecodedRequest {text : String} {error : ReadError} (file : s.text? request = some text)
      (decoding : Request.ofSource ⟨request, text⟩ (Format.ofPath request) = .error error) :
      Stops s request schema (.read error)
  | unreadSchema {r : Request} (asked : s.HoldsRequest request r) (file : s.text? schema = none) :
      Stops s request schema (.read (.noText schema))
  | undecodedSchema {r : Request} {text : String} {error : ReadError}
      (asked : s.HoldsRequest request r) (file : s.text? schema = some text)
      (decoding : Schema.ofSource ⟨schema, text⟩ = .error error) :
      Stops s request schema (.read error)
  | ungenerated {r : Request} {tables : Schema} {error : GenerationError}
      (asked : s.HoldsRequest request r) (described : s.HoldsSchema schema tables)
      (generation : (r.run tables.provider).result = .error error) :
      Stops s request schema (.generation error)

/-- No stage fails, and this is what they come to. -/
def Generates (s : Store) (request schema : String) (r : Request) (g : Generated) : Prop :=
  ∃ tables, s.HoldsRequest request r ∧ s.HoldsSchema schema tables ∧
    (r.run tables.provider).result = .ok g

variable {s : Store} {request schema : String}

theorem HoldsRequest.requestAt_eq {path : String} {r : Request} (h : s.HoldsRequest path r) :
    requestAt s.text? path = .ok r := by
  obtain ⟨text, hfile, hdecode⟩ := h
  simp only [requestAt, sourceAt, hfile, hdecode]

theorem HoldsSchema.schemaAt_eq {path : String} {tables : Schema} (h : s.HoldsSchema path tables) :
    schemaAt s.text? path = .ok tables := by
  obtain ⟨text, hfile, hdecode⟩ := h
  simp only [schemaAt, sourceAt, hfile, hdecode]

theorem Stops.effect_eq {failure : Failure} (h : s.Stops request schema failure)
    (output : Option String) : generateEffect s.text? request schema output = .fail failure := by
  cases h with
  | unreadRequest file => simp only [generateEffect, requestAt, sourceAt, file]
  | undecodedRequest file decoding =>
      simp only [generateEffect, requestAt, sourceAt, file, decoding]
  | unreadSchema asked file =>
      simp only [generateEffect, asked.requestAt_eq, schemaAt, sourceAt, file]
  | undecodedSchema asked file decoding =>
      simp only [generateEffect, asked.requestAt_eq, schemaAt, sourceAt, file, decoding]
  | ungenerated asked described generation =>
      simp only [generateEffect, asked.requestAt_eq, described.schemaAt_eq, generation]

theorem Generates.effect_eq {r : Request} {g : Generated} (h : s.Generates request schema r g)
    (output : Option String) :
    generateEffect s.text? request schema output =
      match output with
      | none => .print g.text
      | some path => .save path g.text (reportText (generatedReport path g)) := by
  obtain ⟨tables, asked, described, generation⟩ := h
  cases output <;>
    simp only [generateEffect, asked.requestAt_eq, described.schemaAt_eq, generation]

/-- A stage fails, or all of them are gone through. -/
theorem stops_or_generates (s : Store) (request schema : String) :
    (∃ failure, s.Stops request schema failure) ∨ ∃ r g, s.Generates request schema r g := by
  cases hrequest : s.text? request with
  | none => exact .inl ⟨_, .unreadRequest hrequest⟩
  | some text =>
      cases hasked : Request.ofSource ⟨request, text⟩ (Format.ofPath request) with
      | error error => exact .inl ⟨_, .undecodedRequest hrequest hasked⟩
      | ok r =>
          have asked : s.HoldsRequest request r := ⟨text, hrequest, hasked⟩
          cases hschema : s.text? schema with
          | none => exact .inl ⟨_, .unreadSchema asked hschema⟩
          | some text =>
              cases hdescribed : Schema.ofSource ⟨schema, text⟩ with
              | error error => exact .inl ⟨_, .undecodedSchema asked hschema hdescribed⟩
              | ok tables =>
                  have described : s.HoldsSchema schema tables := ⟨text, hschema, hdescribed⟩
                  cases generation : (r.run tables.provider).result with
                  | error error => exact .inl ⟨_, .ungenerated asked described generation⟩
                  | ok g => exact .inr ⟨r, g, tables, asked, described, generation⟩

end Store

/-! ## Reports -/

/-- The lines that tell of source in an output file: the type and the table of every unit, in
order. -/
def reportLines (path : String) (g : Generated) : List String :=
  ("Target: " ++ g.target.name) :: ("Output: " ++ path) ::
    if g.units = [] then ["No tables requested:"]
    else
      ("Generated (" ++ toString g.units.length ++ "):") ::
        g.units.map fun u => "  + " ++ u.typeName ++ " <- " ++ u.table

theorem reportText_eq_unlines (lines : List ReportLine) :
    reportText lines = unlines (lines.map ReportLine.text) := by
  rw [reportText, unlines, List.map_map]
  rfl

theorem text_heading_generated (n : String) :
    (ReportLine.heading ("Generated" ++ " (" ++ n ++ ")")).text = "Generated (" ++ n ++ "):" := by
  have hend : ")" ++ ":" = "):" := rfl
  rw [ReportLine.text, ← hend, ← String.append_assoc]
  rfl

theorem map_text_added (units : List SourceUnit) :
    (units.map fun u => ReportLine.added (u.typeName ++ " <- " ++ u.table)).map ReportLine.text =
      units.map fun u => "  + " ++ u.typeName ++ " <- " ++ u.table := by
  rw [List.map_map]
  apply List.map_congr_left
  intro u _
  simp only [Function.comp, ReportLine.text, String.append_assoc]

theorem reportText_generatedReport (path : String) (g : Generated) :
    reportText (generatedReport path g) = unlines (reportLines path g) := by
  rw [reportText_eq_unlines, generatedReport, reportLines, countedItems]
  cases hunits : g.units with
  | nil => rfl
  | cons u rest =>
      rw [← hunits]
      have hne : g.units ≠ [] := by simp [hunits]
      have hsome : (g.units.map fun u =>
          ReportLine.added (u.typeName ++ " <- " ++ u.table)).isEmpty = false := by simp [hunits]
      rw [if_neg hne, hsome, if_neg Bool.false_ne_true, List.length_map, ← map_text_added,
        ← text_heading_generated]
      rfl

/-- Units are named after their tables, in the same order. -/
theorem map_names_of_yields {p : Provider} {c : Configured} {affixes : Naming.Affixes}
    {tables : List String} {units : List SourceUnit}
    (h : List.Forall₂ (p.Yields c affixes) tables units) :
    units.map (fun u => (u.typeName, u.table)) = tables.map fun table =>
      (affixes.before ++ Naming.pascal table ++ affixes.after, table) := by
  induction h with
  | nil => rfl
  | cons unit _ ih => simp only [List.map_cons, ih, unit.typeName_eq, unit.table_eq]

/-! ## Runs of the command -/

namespace Store

/-- A run that ends in failure prints nothing, and leaves every file as it was. -/
structure Refuses (s : Store) (outcome : Ending × Store) : Prop where
  exit : outcome.1.exit = 1
  stdout : outcome.1.stdout = ""
  files : outcome.2 = s

/-- A run that ends well, with what it printed. -/
structure Succeeds (outcome : Ending × Store) (printed : String) : Prop where
  exit : outcome.1.exit = 0
  stdout : outcome.1.stdout = printed

variable {s : Store} {arguments : List String} {request schema : String} {output : Option String}

theorem refuses_failed (s : Store) (failure : Failure) : s.Refuses (.failed failure, s) :=
  ⟨rfl, rfl, rfl⟩

theorem run_eq_perform (manual : Manual)
    (h : readArguments arguments = .run (.generate request schema output)) :
    s.run arguments manual = s.perform (generateEffect s.text? request schema output) := by
  rw [run, h]
  rfl

/-- **The generate command does all of its work, or none.** If a stage fails, nothing is printed
and no file has changed. Otherwise the generated text is printed, or the output file holds it and
nothing else has changed; then the report names the type and the table of every unit. -/
theorem run_generate_all_or_nothing (manual : Manual)
    (h : readArguments arguments = .run (.generate request schema output)) :
    ((∃ failure, s.Stops request schema failure) ∨ ∃ r g, s.Generates request schema r g) ∧
      (∀ failure, s.Stops request schema failure → s.Refuses (s.run arguments manual)) ∧
      ∀ r g, s.Generates request schema r g →
        (output = none →
          Succeeds (s.run arguments manual) g.text ∧ (s.run arguments manual).2 = s) ∧
        ∀ path, output = some path →
          (¬ s.Writable path → s.Refuses (s.run arguments manual)) ∧
          (s.Writable path →
            Succeeds (s.run arguments manual) (unlines (reportLines path g)) ∧
            s.Wrote path g.text (s.run arguments manual).2 ∧
            g.units.map (fun u => (u.typeName, u.table)) = r.tableNames.map fun table =>
              (r.affixes.before ++ Naming.pascal table ++ r.affixes.after, table)) := by
  refine ⟨s.stops_or_generates request schema, ?_, ?_⟩
  · intro failure stops
    rw [run_eq_perform manual h, stops.effect_eq, perform]
    exact refuses_failed s failure
  · intro r g generates
    rw [run_eq_perform manual h, generates.effect_eq]
    refine ⟨?_, ?_⟩
    · rintro rfl
      exact ⟨⟨rfl, rfl⟩, rfl⟩
    · rintro path rfl
      -- the text is there before the output file is touched, and the report is printed last
      refine ⟨?_, ?_⟩
      · intro hclosed
        simp only [perform, write?_eq_none hclosed]
        exact refuses_failed s (.write path)
      · intro hopen
        obtain ⟨saved, hwrite, hwrote⟩ := exists_wrote hopen g.text
        obtain ⟨tables, -, -, generation⟩ := generates
        obtain ⟨c, -, -, yields⟩ := Request.completed_of_run_eq_ok generation
        simp only [perform, hwrite]
        exact ⟨⟨rfl, reportText_generatedReport path g⟩, hwrote, map_names_of_yields yields⟩

/-- Two tables, written over an older output file. -/
theorem two_tables_written_over :
    let asked := "[\"ts\",\"type\",\"\",\"Row\",[\"log\",\"a\"],null]"
    let described := "engine='mysql'\n[tables]\na=[]\nlog=[]"
    let s : Store := ⟨[(["request.json"], .text asked), (["schema.toml"], .text described),
      (["out", "types.ts"], .text "outdated")]⟩
    let arguments := generateArguments "request.json" none (some "out/types.ts")
    readArguments arguments =
        .run (.generate "request.json" "schema.toml" (some "out/types.ts")) ∧
      s.Writable "out/types.ts" ∧
      ∃ r g, s.Generates "request.json" "schema.toml" r g ∧
        Succeeds (s.run arguments) (unlines (reportLines "out/types.ts" g)) ∧
        s.Wrote "out/types.ts" g.text (s.run arguments).2 ∧
        (s.run arguments).2.content? "schema.toml" = some (.text described) ∧
        (s.run arguments).1.stdout =
          unlines ["Target: typescript/type", "Output: out/types.ts", "Generated (2):",
            "  + LogRow <- log", "  + ARow <- a"] := by
  intro asked described s arguments
  have hread : readArguments arguments =
      .run (.generate "request.json" "schema.toml" (some "out/types.ts")) :=
    readArguments_generateArguments (by decide) (by simp) (by simp; decide)
  have hopen : s.Writable "out/types.ts" := ⟨["out", "types.ts"], by decide, by decide⟩
  have hstdout : (s.run arguments).1.stdout =
      unlines ["Target: typescript/type", "Output: out/types.ts", "Generated (2):",
        "  + LogRow <- log", "  + ARow <- a"] := by decide +kernel
  obtain ⟨hoptions, hstops, hgenerates⟩ :=
    run_generate_all_or_nothing (s := s) .blank hread
  rcases hoptions with ⟨failure, stops⟩ | ⟨r, g, generates⟩
  · -- a run that stops prints nothing
    have hnothing := (hstops failure stops).stdout
    rw [hstdout] at hnothing
    exact absurd hnothing (by decide)
  · obtain ⟨-, hsaves⟩ := hgenerates r g generates
    obtain ⟨hprinted, hwrote, -⟩ := (hsaves _ rfl).2 hopen
    have hother : s.resolve "out/types.ts" ≠ s.resolve "schema.toml" := by decide
    have hkept := hwrote.content?_eq hother
    exact ⟨hread, hopen, r, g, generates, hprinted, hwrote, hkept, hstdout⟩

end Store

end SchemaCodegen.CommandLine
