import Mathlib.Data.List.Forall2
import SchemaCodegen.Generation.Run
import SchemaCodegen.Proofs.Emission.Dispatch

/-!
# The outcome of a run

A run ends in one of four ways, settled in this order: the names of its target
do not resolve, its options do not decode, a table fails, or every table has its
unit. The rules below say when each way applies, which tables have been opened
by then, and what comes of the run; they look at a table through its first
violation only. Every run follows exactly one rule.
-/

namespace SchemaCodegen

/-- A table fails if it cannot be opened, or if its stream has a first violation. -/
inductive Provider.Fails (p : Provider) (table : String) (cause : StreamError) : Prop where
  | unopened (h : p.openColumns table = .error cause)
  | violated {items : List StreamItem} {k : Nat} (h : p.openColumns table = .ok items)
      (first : FirstViolation items k cause)

/-- A unit carries the requested name, the type name under the affixes, and what the configured
emitter makes of the table's stream. -/
structure Provider.Yields (p : Provider) (c : Configured) (affixes : Naming.Affixes)
    (table : String) (unit : SourceUnit) : Prop where
  table_eq : unit.table = table
  typeName_eq : unit.typeName = affixes.before ++ Naming.pascal table ++ affixes.after
  source_eq : ∃ items, p.openColumns table = .ok items ∧
    c.generate (Context.of table p.engine affixes) items = .ok unit.source

/-- How a run of a request ends. -/
inductive Request.Outcome (r : Request) (p : Provider) : Run Generated → Prop where
  /-- The names of the target are looked at first. -/
  | unresolved (names : ∀ t, Target.resolve r.language r.style ≠ .ok t) :
      Outcome r p ⟨[], .error (.unsupportedTarget r.language r.style)⟩
  /-- Then the options are decoded; no table has been opened yet. -/
  | undecoded {t : Target} {fault : OptionsFault}
      (names : Target.resolve r.language r.style = .ok t)
      (options : t.configure r.options = .error (.invalidOptions t.style fault)) :
      Outcome r p ⟨[], .error (.invalidOptions t.style fault)⟩
  /-- The first table to fail is the last one to be opened. -/
  | failed {t : Target} {c : Configured} {before after : List String} {table : String}
      {cause : StreamError} (names : Target.resolve r.language r.style = .ok t)
      (options : t.configure r.options = .ok c)
      (tables : r.tableNames = before ++ table :: after)
      (earlier : ∀ name ∈ before, ∀ reason, ¬ p.Fails name reason)
      (fails : p.Fails table cause) :
      Outcome r p ⟨before ++ [table], .error (.stream table cause)⟩
  /-- Without a failing table there is one unit per requested name. -/
  | completed {t : Target} {c : Configured} {units : List SourceUnit}
      (names : Target.resolve r.language r.style = .ok t)
      (options : t.configure r.options = .ok c)
      (sound : ∀ name ∈ r.tableNames, ∀ reason, ¬ p.Fails name reason)
      (yields : List.Forall₂ (p.Yields c r.affixes) r.tableNames units) :
      Outcome r p ⟨r.tableNames, .ok ⟨t, units⟩⟩

namespace Provider

variable (p : Provider) (c : Configured) (affixes : Naming.Affixes)

/-! ## One table -/

theorem unit_of_fails {table : String} {cause : StreamError} (h : p.Fails table cause) :
    p.unit c affixes table = .error (.stream table cause) := by
  cases h with
  | unopened h => rw [unit, h]
  | violated h first =>
      rw [unit, h]
      simp only [c.generate_of_first (Context.of table p.engine affixes) first]
      rfl

theorem unit_of_yields {table : String} {unit : SourceUnit}
    (h : p.Yields c affixes table unit) : p.unit c affixes table = .ok unit := by
  obtain ⟨name, typeName, source⟩ := unit
  obtain ⟨htable, htype, items, hopen, hsource⟩ := h
  simp only at htable htype hsource
  subst name typeName
  rw [Provider.unit, hopen]
  simp only [hsource]
  rfl

theorem exists_yields {table : String} (h : ∀ reason, ¬ p.Fails table reason) :
    ∃ unit, p.Yields c affixes table unit := by
  cases hopen : p.openColumns table with
  | error cause => exact absurd (Fails.unopened hopen) (h cause)
  | ok items =>
      rcases violationAt_eq_none_or_first items with hnone | ⟨k, cause, hfirst⟩
      · obtain ⟨source, hsource⟩ :=
          c.exists_generate_eq_ok (Context.of table p.engine affixes) hnone
        refine ⟨⟨table, Naming.typeName affixes table, source⟩, rfl, rfl, ?_⟩
        exact ⟨items, hopen, hsource⟩
      · exact absurd (Fails.violated hopen hfirst) (h cause)

theorem unit_eq_error_iff {table : String} {cause : StreamError} :
    p.unit c affixes table = .error (.stream table cause) ↔ p.Fails table cause := by
  constructor
  · intro h
    by_cases hfails : ∃ reason, p.Fails table reason
    · obtain ⟨reason, hreason⟩ := hfails
      rw [p.unit_of_fails c affixes hreason] at h
      cases h
      exact hreason
    · obtain ⟨unit, hunit⟩ := p.exists_yields c affixes (not_exists.mp hfails)
      rw [p.unit_of_yields c affixes hunit] at h
      cases h
  · exact p.unit_of_fails c affixes

theorem exists_unit_iff {table : String} :
    (∃ unit, p.unit c affixes table = .ok unit) ↔ ∀ cause, ¬ p.Fails table cause := by
  constructor
  · rintro ⟨unit, hunit⟩ cause hfails
    rw [p.unit_of_fails c affixes hfails] at hunit
    cases hunit
  · intro h
    obtain ⟨unit, hunit⟩ := p.exists_yields c affixes h
    exact ⟨unit, p.unit_of_yields c affixes hunit⟩

/-! ## All tables -/

/-- Tables that do not fail are opened one by one, and each leaves its unit. -/
theorem units_of_yields {tables : List String} {units : List SourceUnit}
    (h : List.Forall₂ (p.Yields c affixes) tables units) :
    p.units c affixes tables = ⟨tables, .ok units⟩ := by
  induction h with
  | nil => rfl
  | cons hunit _ ih =>
      rw [Provider.units, p.unit_of_yields c affixes hunit]
      simp only [ih]
      rfl

theorem exists_units {tables : List String} (h : ∀ name ∈ tables, ∀ reason, ¬ p.Fails name reason) :
    ∃ units, List.Forall₂ (p.Yields c affixes) tables units := by
  induction tables with
  | nil => exact ⟨[], .nil⟩
  | cons table rest ih =>
      have hrest : ∀ name ∈ rest, ∀ reason, ¬ p.Fails name reason := by
        intro name hname
        exact h name (List.mem_cons_of_mem _ hname)
      obtain ⟨unit, hunit⟩ := p.exists_yields c affixes (h table (List.mem_cons_self ..))
      obtain ⟨units, hunits⟩ := ih hrest
      exact ⟨unit :: units, .cons hunit hunits⟩

/-- The run stops at the first table that fails. The induction is on the tables
before it, each of which adds itself to the trace. -/
theorem units_of_failed {before after : List String} {table : String} {cause : StreamError}
    (earlier : ∀ name ∈ before, ∀ reason, ¬ p.Fails name reason) (fails : p.Fails table cause) :
    p.units c affixes (before ++ table :: after) =
      ⟨before ++ [table], .error (.stream table cause)⟩ := by
  induction before with
  | nil => simp [Provider.units, p.unit_of_fails c affixes fails]
  | cons first before ih =>
      have hrest : p.units c affixes (before ++ table :: after) =
          ⟨before ++ [table], .error (.stream table cause)⟩ := by
        apply ih
        intro name hname
        exact earlier name (List.mem_cons_of_mem _ hname)
      obtain ⟨unit, hunit⟩ := p.exists_yields c affixes (earlier first (List.mem_cons_self ..))
      rw [List.cons_append, Provider.units, p.unit_of_yields c affixes hunit]
      simp only [hrest]
      rfl

theorem first_failure_or_none (tables : List String) :
    (∀ name ∈ tables, ∀ reason, ¬ p.Fails name reason) ∨
      ∃ before table after cause, tables = before ++ table :: after ∧
        (∀ name ∈ before, ∀ reason, ¬ p.Fails name reason) ∧ p.Fails table cause := by
  induction tables with
  | nil =>
      left
      intro name hname
      cases hname
  | cons first rest ih =>
      by_cases hfails : ∃ cause, p.Fails first cause
      · obtain ⟨cause, hcause⟩ := hfails
        right
        refine ⟨[], first, rest, cause, rfl, ?_, hcause⟩
        intro name hname
        cases hname
      · have hsound : ∀ reason, ¬ p.Fails first reason := by
          intro reason h
          exact hfails ⟨reason, h⟩
        -- a sound table in front moves the first failure by one place
        rcases ih with hrest | ⟨before, table, after, cause, htables, hbefore, hcause⟩
        · left
          intro name hname
          rcases List.mem_cons.mp hname with rfl | hname
          · exact hsound
          · exact hrest name hname
        · right
          refine ⟨first :: before, table, after, cause, by rw [htables]; rfl, ?_, hcause⟩
          intro name hname
          rcases List.mem_cons.mp hname with rfl | hname
          · exact hsound
          · exact hbefore name hname

end Provider

namespace Request

variable {r : Request} {p : Provider}

/-- The run of a request for one table is that table's unit, or its failure. -/
theorem run_of_single {t : Target} {c : Configured} {table : String}
    (names : Target.resolve r.language r.style = .ok t) (options : t.configure r.options = .ok c)
    (tables : r.tableNames = [table]) :
    (r.run p).result = (p.unit c r.affixes table).map fun unit => ⟨t, [unit]⟩ := by
  rw [Request.run, names]
  simp only [options, tables, Provider.units]
  cases p.unit c r.affixes table <;> rfl

theorem Outcome.run_eq {run : Run Generated} (h : r.Outcome p run) : r.run p = run := by
  cases h with
  | unresolved names =>
      cases hresolve : Target.resolve r.language r.style with
      | ok t => exact absurd hresolve (names t)
      | error failure =>
          rw [Request.run, hresolve]
          unfold Target.resolve at hresolve
          split at hresolve <;> cases hresolve
          rfl
  | undecoded names options =>
      rw [Request.run, names]
      simp only [options]
  | failed names options tables earlier fails =>
      rw [Request.run, names]
      simp only [options, tables, p.units_of_failed _ r.affixes earlier fails]
      rfl
  | completed names options sound yields =>
      rw [Request.run, names]
      simp only [options, p.units_of_yields _ r.affixes yields]
      rfl

theorem exists_outcome (r : Request) (p : Provider) : ∃ run, r.Outcome p run := by
  cases names : Target.resolve r.language r.style with
  | error failure =>
      refine ⟨_, .unresolved ?_⟩
      intro t ht
      rw [names] at ht
      cases ht
  | ok t =>
      cases options : t.configure r.options with
      | error failure =>
          obtain ⟨fault, rfl⟩ := Target.configure_eq_error options
          exact ⟨_, .undecoded names options⟩
      | ok c =>
          rcases p.first_failure_or_none r.tableNames with
            hsound | ⟨before, table, after, cause, htables, hbefore, hfails⟩
          · obtain ⟨units, hunits⟩ := p.exists_units c r.affixes hsound
            exact ⟨_, .completed names options hsound hunits⟩
          · exact ⟨_, .failed names options htables hbefore hfails⟩

/-- A run that succeeds has resolved its target and decoded its options, and has the unit of every
requested table. -/
theorem completed_of_run_eq_ok {g : Generated} (h : (r.run p).result = .ok g) :
    ∃ c, Target.resolve r.language r.style = .ok g.target ∧
      g.target.configure r.options = .ok c ∧
      List.Forall₂ (p.Yields c r.affixes) r.tableNames g.units := by
  obtain ⟨run, outcome⟩ := exists_outcome r p
  rw [outcome.run_eq] at h
  cases outcome with
  | unresolved | undecoded | failed => cases h
  | completed names options sound yields =>
      cases h
      exact ⟨_, names, options, yields⟩

/-- With a target and options, a run over tables that have their units succeeds with these. -/
theorem run_eq_of_yields {t : Target} {c : Configured} {units : List SourceUnit}
    (names : Target.resolve r.language r.style = .ok t) (options : t.configure r.options = .ok c)
    (yields : List.Forall₂ (p.Yields c r.affixes) r.tableNames units) :
    r.run p = ⟨r.tableNames, .ok ⟨t, units⟩⟩ := by
  rw [Request.run, names]
  simp only [options, p.units_of_yields _ r.affixes yields]
  rfl

/-- **A run is all or nothing and stops at the first failure.** What a run opens
and what comes of it are given by the one rule of `Outcome` that applies. -/
theorem outcome_iff_run_eq (r : Request) (p : Provider) (run : Run Generated) :
    r.Outcome p run ↔ r.run p = run := by
  constructor
  · exact Outcome.run_eq
  · rintro rfl
    -- some rule applies, and what it says is the run
    obtain ⟨run, h⟩ := exists_outcome r p
    rw [h.run_eq]
    exact h

end Request

end SchemaCodegen
