import SchemaCodegen.Proofs.Emission.Source

/-!
# Two ways to an emitter

A unit is generated by a target, which decodes its options into a configuration
and hands the stream to the configuration, or by an emitter, which decodes its
own options and emits. The first way is wired by cases over the targets and
again by cases over the configurations; the second has no cases. A target is
wired to an emitter if the two decode alike and a configuration that comes out
of it emits what the emitter does. Every target is wired to the emitter of its
language and style, so both ways end in the same source or the same failure.
-/

namespace SchemaCodegen

/-! ## The emitter of a target -/

/-- An emitter together with the type of its options. -/
structure Backend where
  Options : Type
  emitter : Emitter Options

/-- The emitter of a style of a language. -/
def backendOf? : Language → Style → Option Backend
  | .java, .dto => some ⟨_, Java.dtoEmitter⟩
  | .java, .record => some ⟨_, Java.recordEmitter⟩
  | .java, .mapperXml => some ⟨_, Mapper.documentEmitter⟩
  | .java, .mapperInterface => some ⟨_, Mapper.interfaceEmitter⟩
  | .csharp, .dto => some ⟨_, CSharp.dtoEmitter⟩
  | .csharp, .record => some ⟨_, CSharp.recordEmitter⟩
  | .typescript, .interface => some ⟨_, TypeScript.objectEmitter .interface⟩
  | .typescript, .objectClass => some ⟨_, TypeScript.objectEmitter .objectClass⟩
  | .typescript, .type => some ⟨_, TypeScript.objectEmitter .type⟩
  | .typescript, .zod => some ⟨_, Zod.schemaEmitter⟩
  | _, _ => none

namespace Target

theorem isSome_backendOf? (t : Target) : (backendOf? t.language t.style).isSome := by
  cases t <;> rfl

def backend (t : Target) : Backend :=
  (backendOf? t.language t.style).get t.isSome_backendOf?

/-- The configuration that holds decoded options. -/
def hold : (t : Target) → t.backend.Options → Configured
  | .javaDto => .javaDto
  | .javaRecord => .javaRecord
  | .javaMapperXml => .javaMapperXml
  | .javaMapperInterface => .javaMapperInterface
  | .csharpDto => .csharpDto
  | .csharpRecord => .csharpRecord
  | .typescriptInterface => .typescript .interface
  | .typescriptClass => .typescript .objectClass
  | .typescriptType => .typescript .type
  | .typescriptZod => .typescriptZod

/-- A target is wired to an emitter whose options it holds in its configurations. -/
structure Wired {α : Type} (t : Target) (e : Emitter α) (hold : α → Configured) : Prop where
  style : e.style = t.style
  /-- The target configures itself by what the emitter decodes. -/
  configure : ∀ payload, t.configure payload = (e.decode payload).map hold
  /-- A configuration hands the ordered items to the emitter. -/
  generate : ∀ options context items,
    (hold options).generate context items = e.emit context options (.start items)

/-- Every target is wired to the emitter of its language and style. -/
theorem wired (t : Target) : t.Wired t.backend.emitter t.hold := by
  cases t <;> exact ⟨rfl, fun _ => rfl, fun _ _ _ => rfl⟩

end Target

/-! ## The way through an emitter -/

namespace Emitter

variable {α : Type} (e : Emitter α)

theorem generate_of_decode {payload : Document.Value} {options : α}
    (h : e.decode payload = .ok options) (context : Context) (items : List StreamItem) :
    e.generate context payload items = e.emit context options (.start items) := by
  rw [generate, h]

theorem generate_of_refused {payload : Document.Value} {failure : GenerationError}
    (h : e.decode payload = .error failure) (context : Context) (items : List StreamItem) :
    e.generate context payload items = .error failure := by
  rw [generate, h]

/-- An emitter refuses options under its own style. -/
theorem decode_eq_error {payload : Document.Value} {failure : GenerationError}
    (h : e.decode payload = .error failure) :
    ∃ fault, failure = .invalidOptions e.style fault := by
  unfold decode at h
  cases hdecode : e.options.decode payload with
  | ok options =>
      rw [hdecode] at h
      cases h
  | error fault =>
      rw [hdecode] at h
      cases h
      exact ⟨fault, rfl⟩

end Emitter

/-! ## The way through a target -/

namespace Target

section Wired

variable {α : Type} {t : Target} {e : Emitter α} {hold : α → Configured} (h : t.Wired e hold)
include h

theorem Wired.configure_eq_error_iff {payload : Document.Value} {failure : GenerationError} :
    t.configure payload = .error failure ↔ e.decode payload = .error failure := by
  rw [h.configure]
  cases e.decode payload with
  | ok options => constructor <;> rintro ⟨⟩
  | error reason => constructor <;> rintro ⟨⟩ <;> rfl

/-- The two ways agree over every payload and every stream. -/
theorem Wired.generate_eq (payload : Document.Value) (context : Context)
    (items : List StreamItem) :
    t.generate context payload items = e.generate context payload items := by
  rw [Target.generate, h.configure]
  cases hdecode : e.decode payload with
  | ok options =>
      rw [e.generate_of_decode hdecode]
      exact h.generate options context items
  | error failure =>
      rw [e.generate_of_refused hdecode]
      rfl

end Wired

/-- A target refuses options under its own style. -/
theorem configure_eq_error {t : Target} {payload : Document.Value} {failure : GenerationError}
    (h : t.configure payload = .error failure) :
    ∃ fault, failure = .invalidOptions t.style fault := by
  rw [← t.wired.style]
  exact t.backend.emitter.decode_eq_error (t.wired.configure_eq_error_iff.mp h)

/-- **A target does what the emitter of its language and style does.** Over every
payload and every stream the two give the same source or the same failure. A
payload that the emitter does not decode is refused by both under the style of
the emitter, whatever the stream is; with a payload that it decodes, both fail
with the first violation of the stream, and both give one source if there is
none. -/
theorem generate_eq_emitter_generate (t : Target) :
    let e := t.backend.emitter
    backendOf? t.language t.style = some t.backend ∧ e.style = t.style ∧
      (∀ payload context items,
        t.generate context payload items = e.generate context payload items) ∧
      (∀ payload failure, e.decode payload = .error failure →
        t.configure payload = .error failure ∧
        (∃ fault, failure = .invalidOptions e.style fault) ∧
        ∀ context items, t.generate context payload items = .error failure ∧
          e.generate context payload items = .error failure) ∧
      ∀ payload options, e.decode payload = .ok options → ∀ context items,
        (∀ k cause, FirstViolation items k cause →
          t.generate context payload items = .error (.stream context.table cause) ∧
          e.generate context payload items = .error (.stream context.table cause)) ∧
        ((∀ k, violationAt items k = none) →
          ∃ source, t.generate context payload items = .ok source ∧
            e.generate context payload items = .ok source) := by
  intro e
  have hwired : t.Wired e t.hold := t.wired
  refine ⟨(Option.some_get _).symm, hwired.style, hwired.generate_eq, ?_, ?_⟩
  · intro payload failure hrefused
    refine ⟨hwired.configure_eq_error_iff.mpr hrefused, e.decode_eq_error hrefused, ?_⟩
    intro context items
    have hfails := e.generate_of_refused hrefused context items
    exact ⟨(hwired.generate_eq payload context items).trans hfails, hfails⟩
  · intro payload options hdecode context items
    -- decoded options are a configuration, which reads the stream up to its first violation
    have hsame := hwired.generate_eq payload context items
    have hconfigured : e.generate context payload items =
        (t.hold options).generate context items := by
      rw [e.generate_of_decode hdecode, hwired.generate]
    rw [hsame, hconfigured]
    constructor
    · intro k cause hfirst
      have hfails := (t.hold options).generate_of_first context hfirst
      exact ⟨hfails, hfails⟩
    · intro hnone
      obtain ⟨source, hsource⟩ := (t.hold options).exists_generate_eq_ok context hnone
      exact ⟨source, hsource, hsource⟩

end Target

end SchemaCodegen
