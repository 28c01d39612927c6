import SchemaCodegen.Proofs.Emission.Source

/-!
# Which streams are accepted

Whether a stream yields source, and how it fails otherwise, does not depend on
the target: a stream is refused exactly if it has a first violation, the
failure names the table of the context and carries the fault found there, and
no item after that place makes a difference.
-/

namespace SchemaCodegen

namespace Configured

/-- Success and failure over the same stream, for any two configured targets. -/
theorem generate_eq_ok_iff (c : Configured) (context : Context) (items : List StreamItem) :
    (∃ source, c.generate context items = .ok source) ↔ ∀ k, violationAt items k = none := by
  constructor
  · rintro ⟨source, h⟩
    rcases violationAt_eq_none_or_first items with hnone | ⟨k, cause, hfirst⟩
    · exact hnone
    · rw [generate_of_first c context hfirst] at h
      cases h
  · exact exists_generate_eq_ok c context

theorem generate_eq_error_iff (c : Configured) (context : Context) (items : List StreamItem)
    (failure : GenerationError) :
    c.generate context items = .error failure ↔
      ∃ k cause, FirstViolation items k cause ∧ failure = .stream context.table cause := by
  constructor
  · intro h
    rw [generate_eq, context.drain_eq] at h
    cases hread : collectOrdered items with
    | ok columns =>
        rw [hread] at h
        cases h
    | error cause =>
        rw [hread] at h
        cases h
        obtain ⟨k, hfirst⟩ := collectOrdered_eq_error_iff.mp hread
        exact ⟨k, cause, hfirst, rfl⟩
  · rintro ⟨k, cause, hfirst, rfl⟩
    exact generate_of_first c context hfirst

end Configured

namespace Target

/-- With decoded options, a target does what its configuration does. -/
theorem generate_of_configure {t : Target} {payload : Document.Value} {c : Configured}
    (h : t.configure payload = .ok c) (context : Context) (items : List StreamItem) :
    t.generate context payload items = c.generate context items := by
  rw [generate, h]

/-- **The first violation decides, for every target alike.** A stream without a
violation yields source. Any other fails with the fault of its first violation,
reported for the table of the context; every other target with decoded options
accepts and refuses the same streams with the same failure; and a stream that
agrees with this one up to its first violation fails in the same way, whatever
follows. -/
theorem generate_decided_by_first_violation {t : Target} {payload : Document.Value}
    {c : Configured} (h : t.configure payload = .ok c) (context : Context)
    (items : List StreamItem) :
    ((∃ source, t.generate context payload items = .ok source) ↔
        ∀ k, violationAt items k = none) ∧
      (∀ failure, t.generate context payload items = .error failure ↔
        ∃ k cause, FirstViolation items k cause ∧ failure = .stream context.table cause) ∧
      (∀ (other : Target) (options : Document.Value) (d : Configured),
        other.configure options = .ok d →
        ((∃ source, t.generate context payload items = .ok source) ↔
          ∃ source, other.generate context options items = .ok source) ∧
        ∀ failure, t.generate context payload items = .error failure ↔
          other.generate context options items = .error failure) ∧
      ∀ k cause others, FirstViolation items k cause →
        items.take (k + 1) = others.take (k + 1) →
        t.generate context payload others = t.generate context payload items := by
  rw [generate_of_configure h]
  refine ⟨?_, ?_, ?_, ?_⟩
  · exact c.generate_eq_ok_iff context items
  · exact c.generate_eq_error_iff context items
  · -- neither right-hand side mentions the target
    intro other options d hd
    rw [generate_of_configure hd]
    constructor
    · rw [c.generate_eq_ok_iff, d.generate_eq_ok_iff]
    · intro failure
      rw [c.generate_eq_error_iff, d.generate_eq_error_iff]
  · intro k cause others hfirst hsame
    rw [generate_of_configure h, c.generate_of_first context hfirst,
      c.generate_of_first context (hfirst.congr hsame)]

/-- A repeated ordinal at the second place, before a failure that is never
reached: a schema and a mapper refuse it alike. -/
theorem repeated_ordinal_decides :
    let context : Context := .of "users" .mySql .none
    let trimmed : Document.Value := .object [("trim", .bool true)]
    let items : List StreamItem :=
      [.ok (.new 1 "id" "int"), .ok (.new 1 "name" "text"), .error (.provider "lost")]
    typescriptZod.configure trimmed =
        .ok (.typescriptZod ⟨false, false, false, false, false, false, true⟩) ∧
      FirstViolation items 1 (.outOfOrder 1 1) ∧
      typescriptZod.generate context trimmed items =
        .error (.stream "users" (.outOfOrder 1 1)) ∧
      javaMapperXml.generate context .null items =
        .error (.stream "users" (.outOfOrder 1 1)) ∧
      typescriptZod.generate context trimmed (items.take 2) =
        typescriptZod.generate context trimmed items := by
  intro context trimmed items
  have hzod : typescriptZod.configure trimmed =
      .ok (.typescriptZod ⟨false, false, false, false, false, false, true⟩) := by decide
  have hmapper : javaMapperXml.configure .null =
      .ok (.javaMapperXml ⟨false, false, false, false, false⟩) := by decide
  have hfirst : FirstViolation items 1 (.outOfOrder 1 1) := ⟨by decide, by decide⟩
  obtain ⟨-, hfails, halike, hsame⟩ := generate_decided_by_first_violation hzod context items
  have hrefused := (hfails _).mpr ⟨1, _, hfirst, rfl⟩
  exact ⟨hzod, hfirst, hrefused, ((halike _ _ _ hmapper).2 _).mp hrefused,
    hsame 1 _ (items.take 2) hfirst rfl⟩

end Target

end SchemaCodegen
