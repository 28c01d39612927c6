import SchemaCodegen.Proofs.Emission.UnitText
import SchemaCodegen.Proofs.Generation.Outcome
import SchemaCodegen.Proofs.Layout.Lines

/-!
# The text of several tables

The units of a request do not depend on one another: a request for the tables of
one list and then of another one has the units that the two lists have on their
own, in this order. Its text is that of the first list, a line feed, and that of
the second one. Since a unit starts with something else than a line feed and ends
with exactly one, so does the text of any units, and the line feed between two
units makes exactly one empty line.
-/

namespace SchemaCodegen

/-! ## Texts of units -/

namespace Generated

/-- The text of units that follow others. -/
theorem text_append {target : Target} {us vs : List SourceUnit} (hus : us ≠ []) (hvs : vs ≠ []) :
    (Generated.mk target (us ++ vs)).text =
      (Generated.mk target us).text ++ "\n" ++ (Generated.mk target vs).text := by
  have hfirst : us.map (·.source) ≠ [] := by simpa using hus
  have hsecond : vs.map (·.source) ≠ [] := by simpa using hvs
  rw [text, List.map_append, String.intercalate_append_of_ne_nil hfirst hsecond, text, text]

/-- Units that have both ends make a text that has them. -/
theorem isUnitText_text {target : Target} {units : List SourceUnit} (hne : units ≠ [])
    (h : ∀ u ∈ units, IsUnitText u.source) : IsUnitText (Generated.mk target units).text := by
  induction units with
  | nil => exact absurd rfl hne
  | cons u rest ih =>
      have hu : IsUnitText u.source := h u List.mem_cons_self
      have hone : (Generated.mk target [u]).text = u.source := String.intercalate_singleton
      cases rest with
      | nil => rwa [hone]
      | cons v rest =>
          have hrest : IsUnitText (Generated.mk target (v :: rest)).text := by
            apply ih (List.cons_ne_nil v rest)
            intro w hw
            exact h w (List.mem_cons_of_mem u hw)
          have hsplit : (Generated.mk target ([u] ++ v :: rest)).text =
              (Generated.mk target [u]).text ++ "\n" ++ (Generated.mk target (v :: rest)).text :=
            text_append (List.cons_ne_nil u []) (List.cons_ne_nil v rest)
          rw [List.singleton_append, hone] at hsplit
          rw [hsplit]
          exact hu.join hrest

end Generated

/-- Exactly one empty line stands between two texts: the line feed between them follows the one
that ends the first, and the second starts with something else. -/
structure ApartByOneLine (whole above below : String) : Prop where
  whole_eq : whole = above ++ "\n" ++ below
  above : IsUnitText above
  below : IsUnitText below

theorem Provider.isUnitText_of_yields {p : Provider} {c : Configured} {affixes : Naming.Affixes}
    {tables : List String} {units : List SourceUnit}
    (h : List.Forall₂ (p.Yields c affixes) tables units) : ∀ u ∈ units, IsUnitText u.source := by
  induction h with
  | nil =>
      intro u hu
      cases hu
  | cons hunit _ ih =>
      obtain ⟨items, -, hsource⟩ := hunit.source_eq
      exact List.forall_mem_cons.mpr ⟨Configured.isUnitText_of_generate hsource, ih⟩

/-! ## Requests for more than one table -/

namespace Request

variable {r : Request} {p : Provider}

/-- The same request for other tables. -/
def forTables (r : Request) (tables : List String) : Request := { r with tableNames := tables }

/-- A request over two lists of tables succeeds only if it does over either of them, and then with
the units of both. -/
theorem exists_run_forTables {A B : List String} {g : Generated} (htables : r.tableNames = A ++ B)
    (hrun : (r.run p).result = .ok g) :
    ∃ us vs, g.units = us ++ vs ∧ us.length = A.length ∧ vs.length = B.length ∧
      ((r.forTables A).run p).result = .ok ⟨g.target, us⟩ ∧
      ((r.forTables B).run p).result = .ok ⟨g.target, vs⟩ := by
  obtain ⟨c, names, options, yields⟩ := completed_of_run_eq_ok hrun
  rw [htables] at yields
  have hfirst : List.Forall₂ (p.Yields c r.affixes) A (g.units.take A.length) := by
    simpa using List.forall₂_take A.length yields
  have hsecond : List.Forall₂ (p.Yields c r.affixes) B (g.units.drop A.length) := by
    simpa using List.forall₂_drop A.length yields
  refine ⟨_, _, (List.take_append_drop A.length g.units).symm, hfirst.length_eq.symm,
    hsecond.length_eq.symm, ?_, ?_⟩
  · rw [run_eq_of_yields (r := r.forTables A) names options hfirst]
  · rw [run_eq_of_yields (r := r.forTables B) names options hsecond]

/-- Every unit of a run has both its ends. -/
theorem isUnitText_of_run {g : Generated} (hrun : (r.run p).result = .ok g) :
    ∀ u ∈ g.units, IsUnitText u.source := by
  obtain ⟨c, -, -, yields⟩ := completed_of_run_eq_ok hrun
  exact p.isUnitText_of_yields yields

/-- One empty line stands behind every unit but the last. -/
theorem apart_of_run {g : Generated} (hrun : (r.run p).result = .ok g)
    {before after : List SourceUnit} {u v : SourceUnit}
    (hunits : g.units = before ++ u :: v :: after) :
    ApartByOneLine g.text (Generated.mk g.target (before ++ [u])).text
      (Generated.mk g.target (v :: after)).text := by
  have htexts := isUnitText_of_run hrun
  have hsplit : g.units = (before ++ [u]) ++ v :: after := by simp [hunits]
  have habove : before ++ [u] ≠ [] := by simp
  have hbelow : v :: after ≠ [] := List.cons_ne_nil v after
  rw [hsplit] at htexts
  refine ⟨?_, ?_, ?_⟩
  · rw [← Generated.text_append habove hbelow, ← hsplit]
  · apply Generated.isUnitText_text habove
    intro w hw
    exact htexts w (List.mem_append_left _ hw)
  · apply Generated.isUnitText_text hbelow
    intro w hw
    exact htexts w (List.mem_append_right _ hw)

/-- **Requests compose.** Every unit starts with something else than a line feed and ends with
exactly one. A request over two lists of tables succeeds only if it does over either of them; then
it has the units of both, and their texts with a line feed between them. Any two units that follow
one another have exactly one empty line between them. -/
theorem text_composed_of_units :
    (∀ (t : Target) (payload : Document.Value) (context : Context) (items : List StreamItem)
      (source : String), t.generate context payload items = .ok source → IsUnitText source) ∧
    ∀ (r : Request) (p : Provider) (A B : List String) (g : Generated), A ≠ [] → B ≠ [] →
      r.tableNames = A ++ B → (r.run p).result = .ok g →
      (∃ first second : Generated,
        ((r.forTables A).run p).result = .ok first ∧
        ((r.forTables B).run p).result = .ok second ∧
        g.units = first.units ++ second.units ∧
        g.text = first.text ++ "\n" ++ second.text) ∧
      ∀ before u v after, g.units = before ++ u :: v :: after →
        ApartByOneLine g.text (Generated.mk g.target (before ++ [u])).text
          (Generated.mk g.target (v :: after)).text := by
  refine ⟨?_, ?_⟩
  · intro t payload context items source h
    rw [Target.generate] at h
    split at h
    · exact Configured.isUnitText_of_generate h
    · cases h
  · intro r p A B g hA hB htables hrun
    -- a run adds a unit for every table, so that the units are cut where the tables are
    obtain ⟨us, vs, hunits, husLength, hvsLength, hfirst, hsecond⟩ :=
      exists_run_forTables htables hrun
    have hus : us ≠ [] := by
      rw [← List.length_pos_iff, husLength]
      exact List.length_pos_iff.mpr hA
    have hvs : vs ≠ [] := by
      rw [← List.length_pos_iff, hvsLength]
      exact List.length_pos_iff.mpr hB
    refine ⟨⟨⟨g.target, us⟩, ⟨g.target, vs⟩, hfirst, hsecond, hunits, ?_⟩, ?_⟩
    · rw [← Generated.text_append hus hvs, ← hunits]
    · intro before u v after
      exact apart_of_run hrun

/-- An empty table over one with an alias behind its declaration. -/
theorem empty_table_above_alias :
    let p : Provider := ⟨.mySql, fun table =>
      .ok (if table = "log" then [] else [.ok (.new 1 "id" "int")])⟩
    let r : Request := ⟨"ts", "type", .none, ["log", "user"],
      .object [("partialType", .bool true)]⟩
    let log : SourceUnit := ⟨"log", "Log", unlines ["type Log = \x7b\x7d;", "",
      "type PartialLog = Partial<Log>;"]⟩
    let user : SourceUnit := ⟨"user", "User", unlines ["type User = \x7b", "  id: number;", "\x7d;",
      "", "type PartialUser = Partial<User>;"]⟩
    let g : Generated := ⟨.typescriptType, [log, user]⟩
    (r.run p).result = .ok g ∧
      (∃ first second : Generated,
        ((r.forTables ["log"]).run p).result = .ok first ∧
        ((r.forTables ["user"]).run p).result = .ok second ∧
        g.units = first.units ++ second.units ∧
        g.text = first.text ++ "\n" ++ second.text) ∧
      ApartByOneLine g.text log.source user.source := by
  intro p r log user g
  have hrun : (r.run p).result = .ok g := by decide +kernel
  obtain ⟨hcomposed, hapart⟩ := text_composed_of_units.2 r p ["log"] ["user"] g (by decide)
    (by decide) rfl hrun
  exact ⟨hrun, hcomposed, hapart [] log user [] rfl⟩

end Request

end SchemaCodegen
