import SchemaCodegen.Proofs.Document.Entries
import SchemaCodegen.Proofs.Emission.Dispatch
import SchemaCodegen.Proofs.Options.Spelling
import SchemaCodegen.Proofs.Text.ByteOrder

/-!
# Which options decode, and to what

Decoding goes through the entries of an object and sets the flags they name. An
entry is mistyped for a table if it names a flag and is not a boolean. Either
no entry is mistyped, and what has been set in the end is under each name the
boolean that the object has there, or the first mistyped entry is at fault. Of
an object only what it has under the names of the flags matters, so that other
keys and the order in which a document gives them make no difference.
-/

namespace SchemaCodegen

open Document

namespace FlagTable

/-- An entry names a flag and is not a boolean. -/
def Mistyped (names : List String) (entry : String × Value) : Prop :=
  entry.1 ∈ names ∧ ∀ b, entry.2 ≠ .bool b

/-- The boolean found under a name, or what holds without one. -/
def readFlag (otherwise : Bool) : Option Value → Bool
  | some (.bool b) => b
  | _ => otherwise

/-! ## One entry -/

theorem exists_bool {names : List String} {key : String} {value : Value} (hkey : key ∈ names)
    (h : ¬Mistyped names (key, value)) : ∃ b, value = .bool b := by
  by_contra hnot
  exact h ⟨hkey, fun b hb => hnot ⟨b, hb⟩⟩

variable {α : Type} {t : FlagTable α} {names : List String} {build : (String → Bool) → α}

section Spells

variable (h : t.Spells names build)
include h

theorem Spells.find?_eq_none {key : String} (hkey : key ∉ names) :
    t.flags.find? (·.key == key) = none := by
  rw [List.find?_eq_none]
  intro flag hflag hmatch
  apply hkey
  rw [← eq_of_beq hmatch, ← h.keys]
  exact List.mem_map_of_mem hflag

theorem Spells.exists_find? {key : String} (hkey : key ∈ names) :
    ∃ flag ∈ t.flags, flag.key = key ∧ t.flags.find? (·.key == key) = some flag := by
  rw [← h.keys] at hkey
  obtain ⟨flag, hflag, rfl⟩ := List.mem_map.mp hkey
  cases hfind : t.flags.find? (·.key == flag.key) with
  | none =>
      rw [List.find?_eq_none] at hfind
      exact absurd (beq_self_eq_true flag.key) (hfind flag hflag)
  | some found =>
      have hkey : found.key = flag.key := by simpa using List.find?_some hfind
      exact ⟨found, List.mem_of_find?_eq_some hfind, hkey, rfl⟩

/-- A key that names no flag is passed over, whatever it holds. -/
theorem Spells.setEntry_of_unknown {key : String} (hkey : key ∉ names) (value : Value)
    (options : α) : t.setEntry options (key, value) = .ok options := by
  simp only [setEntry, h.find?_eq_none hkey]

/-- A boolean is set under the name it stands under. -/
theorem Spells.setEntry_of_bool {key : String} (hkey : key ∈ names) (b : Bool)
    (f : String → Bool) :
    t.setEntry (build f) (key, .bool b) = .ok (build (Function.update f key b)) := by
  obtain ⟨flag, hflag, rfl, hfind⟩ := h.exists_find? hkey
  simp only [setEntry, hfind, h.set flag hflag]

/-- Anything else under the name of a flag is at fault. -/
theorem Spells.setEntry_of_mistyped {entry : String × Value} (hentry : Mistyped names entry)
    (options : α) : t.setEntry options entry = .error (.notABoolean entry.2.found) := by
  obtain ⟨key, value⟩ := entry
  obtain ⟨hkey, hvalue⟩ := hentry
  obtain ⟨flag, -, -, hfind⟩ := h.exists_find? hkey
  cases value with
  | bool b => exact absurd rfl (hvalue b)
  | _ => simp only [setEntry, hfind]

/-! ## All entries -/

/-- **Entries without a mistyped one set each flag to the boolean under its name.** The induction
is on the entries; the truth values that hold before them vary. -/
theorem Spells.setEntries_of_typed {entries : List (String × Value)}
    (hincrease : KeysIncrease entries) (htyped : ∀ entry ∈ entries, ¬Mistyped names entry)
    (f : String → Bool) :
    t.setEntries (build f) entries =
      .ok (build fun key => readFlag (f key) (entries.lookup key)) := by
  induction entries generalizing f with
  | nil => rfl
  | cons entry rest ih =>
      obtain ⟨name, value⟩ := entry
      obtain ⟨hentry, hrest⟩ := List.forall_mem_cons.mp htyped
      by_cases hname : name ∈ names
      · obtain ⟨b, rfl⟩ := exists_bool hname hentry
        rw [setEntries, h.setEntry_of_bool hname]
        simp only [ih hincrease.tail hrest]
        congr 2
        funext key
        -- the name does not stand again among the entries that are left
        by_cases hkey : key = name
        · subst hkey
          rw [hincrease.lookup_tail, List.lookup_cons_self, Function.update_self]
          rfl
        · have hne : (key == name) = false := by simpa using hkey
          rw [List.lookup_cons, hne, Function.update_of_ne hkey]
      · rw [setEntries, h.setEntry_of_unknown hname]
        simp only [ih hincrease.tail hrest]
        congr 1
        apply h.congr
        intro key hkey
        have hne : (key == name) = false := by
          rw [beq_eq_false_iff_ne]
          rintro rfl
          exact hname hkey
        rw [List.lookup_cons, hne]

/-- **The first mistyped entry is at fault**, whatever stands behind it. -/
theorem Spells.setEntries_of_first {before after : List (String × Value)} {entry : String × Value}
    (hentry : Mistyped names entry) (hbefore : ∀ other ∈ before, ¬Mistyped names other)
    (f : String → Bool) :
    t.setEntries (build f) (before ++ entry :: after) =
      .error (.notABoolean entry.2.found) := by
  induction before generalizing f with
  | nil => rw [List.nil_append, setEntries, h.setEntry_of_mistyped hentry]
  | cons first before ih =>
      obtain ⟨name, value⟩ := first
      obtain ⟨hfirst, hrest⟩ := List.forall_mem_cons.mp hbefore
      rw [List.cons_append, setEntries]
      by_cases hname : name ∈ names
      · obtain ⟨b, rfl⟩ := exists_bool hname hfirst
        rw [h.setEntry_of_bool hname]
        exact ih hrest _
      · rw [h.setEntry_of_unknown hname]
        exact ih hrest f

/-- Entries that name no flag can be left out. -/
theorem Spells.setEntries_filter (entries : List (String × Value)) (options : α) :
    t.setEntries options (entries.filter (·.1 ∈ names)) = t.setEntries options entries := by
  induction entries generalizing options with
  | nil => rfl
  | cons entry rest ih =>
      obtain ⟨name, value⟩ := entry
      by_cases hname : name ∈ names
      · rw [List.filter_cons_of_pos (by simpa using hname), setEntries, setEntries]
        cases t.setEntry options (name, value) with
        | ok set => exact ih set
        | error fault => rfl
      · rw [List.filter_cons_of_neg (by simpa using hname), setEntries,
          h.setEntry_of_unknown hname]
        exact ih options

end Spells

/-- Some entry is the first mistyped one, unless none is. -/
theorem typed_or_first (names : List String) (entries : List (String × Value)) :
    (∀ entry ∈ entries, ¬Mistyped names entry) ∨
      ∃ before entry after, entries = before ++ entry :: after ∧ Mistyped names entry ∧
        ∀ other ∈ before, ¬Mistyped names other := by
  classical
  cases hfind : entries.find? fun entry => decide (Mistyped names entry) with
  | none =>
      left
      simpa using hfind
  | some entry =>
      right
      obtain ⟨hentry, before, after, hsplit, hbefore⟩ := List.find?_eq_some_iff_append.mp hfind
      refine ⟨before, entry, after, hsplit, by simpa using hentry, ?_⟩
      simpa using hbefore

end FlagTable

/-- Among increasing keys, the entries that name flags are given by what stands under the names. -/
theorem filter_eq_of_lookup_eq {names : List String} {entries others : List (String × Value)}
    (hentries : KeysIncrease entries) (hothers : KeysIncrease others)
    (hsame : ∀ key ∈ names, others.lookup key = entries.lookup key) :
    others.filter (·.1 ∈ names) = entries.filter (·.1 ∈ names) := by
  have hnodup : ∀ {es : List (String × Value)}, KeysIncrease es →
      (es.filter (·.1 ∈ names)).Nodup := by
    intro es hes
    exact (hes.filter _).imp fun hlt heq => absurd (heq ▸ hlt) (lt_irrefl _)
  have hperm : (others.filter (·.1 ∈ names)).Perm (entries.filter (·.1 ∈ names)) := by
    rw [List.perm_ext_iff_of_nodup (hnodup hothers) (hnodup hentries)]
    rintro ⟨key, value⟩
    simp only [List.mem_filter, hothers.mem_iff_lookup, hentries.mem_iff_lookup]
    constructor
    · rintro ⟨hfound, hkey⟩
      exact ⟨hsame key (by simpa using hkey) ▸ hfound, hkey⟩
    · rintro ⟨hfound, hkey⟩
      exact ⟨(hsame key (by simpa using hkey)).trans hfound, hkey⟩
  apply hperm.eq_of_pairwise _ (hothers.filter _) (hentries.filter _)
  intro a b _ _ hlt hgt
  exact absurd hgt hlt.asymm

namespace Target

/-! ## The flags of a target -/

def flagNames : Target → List String
  | .javaDto => JavaDtoOptions.names
  | .javaRecord => JavaRecordOptions.names
  | .javaMapperXml | .javaMapperInterface => MapperOptions.names
  | .csharpDto => CSharpDtoOptions.names
  | .csharpRecord => CSharpRecordOptions.names
  | .typescriptInterface | .typescriptClass | .typescriptType => TypeScriptOptions.names
  | .typescriptZod => ZodOptions.names

/-- The target with a truth value for each of its flags. -/
def withFlags (t : Target) (flag : String → Bool) : Configured :=
  match t with
  | .javaDto => .javaDto (.build flag)
  | .javaRecord => .javaRecord (.build flag)
  | .javaMapperXml => .javaMapperXml (.build flag)
  | .javaMapperInterface => .javaMapperInterface (.build flag)
  | .csharpDto => .csharpDto (.build flag)
  | .csharpRecord => .csharpRecord (.build flag)
  | .typescriptInterface => .typescript .interface (.build flag)
  | .typescriptClass => .typescript .objectClass (.build flag)
  | .typescriptType => .typescript .type (.build flag)
  | .typescriptZod => .typescriptZod (.build flag)

/-- The value is `null`, or an object with nothing but booleans under the names of flags. -/
def Accepts (t : Target) (payload : Value) : Prop :=
  payload = .null ∨
    ∃ entries, payload = .object entries ∧
      ∀ key ∈ t.flagNames, ∀ value, entries.lookup key = some value → ∃ b, value = .bool b

/-- The table of the target's emitter spells its configurations out. -/
theorem exists_spells (t : Target) :
    ∃ build, t.backend.emitter.options.Spells t.flagNames build ∧
      ∀ flag, t.hold (build flag) = t.withFlags flag := by
  cases t with
  | javaDto => exact ⟨_, JavaDtoOptions.spells, fun _ => rfl⟩
  | javaRecord => exact ⟨_, JavaRecordOptions.spells, fun _ => rfl⟩
  | javaMapperXml => exact ⟨_, MapperOptions.spells, fun _ => rfl⟩
  | javaMapperInterface => exact ⟨_, MapperOptions.spells, fun _ => rfl⟩
  | csharpDto => exact ⟨_, CSharpDtoOptions.spells, fun _ => rfl⟩
  | csharpRecord => exact ⟨_, CSharpRecordOptions.spells, fun _ => rfl⟩
  | typescriptInterface => exact ⟨_, TypeScriptOptions.spells, fun _ => rfl⟩
  | typescriptClass => exact ⟨_, TypeScriptOptions.spells, fun _ => rfl⟩
  | typescriptType => exact ⟨_, TypeScriptOptions.spells, fun _ => rfl⟩
  | typescriptZod => exact ⟨_, ZodOptions.spells, fun _ => rfl⟩

/-! ## Configuring a target -/

variable (t : Target)

theorem configure_of_decode {payload : Value} {options : t.backend.Options}
    (h : t.backend.emitter.options.decode payload = .ok options) :
    t.configure payload = .ok (t.hold options) := by
  rw [t.wired.configure, Emitter.decode, h]
  rfl

theorem configure_of_fault {payload : Value} {fault : OptionsFault}
    (h : t.backend.emitter.options.decode payload = .error fault) :
    t.configure payload = .error (.invalidOptions t.style fault) := by
  rw [t.wired.configure, Emitter.decode, h, ← t.wired.style]
  rfl

theorem configure_null : t.configure .null = .ok (t.withFlags fun _ => false) := by
  obtain ⟨build, hspells, hhold⟩ := t.exists_spells
  rw [← hhold, ← hspells.unset]
  exact t.configure_of_decode rfl

theorem configure_of_typed {entries : List (String × Value)} (hincrease : KeysIncrease entries)
    (htyped : ∀ entry ∈ entries, ¬FlagTable.Mistyped t.flagNames entry) :
    t.configure (.object entries) =
      .ok (t.withFlags fun key => FlagTable.readFlag false (entries.lookup key)) := by
  obtain ⟨build, hspells, hhold⟩ := t.exists_spells
  rw [← hhold]
  apply t.configure_of_decode
  rw [FlagTable.decode, hspells.unset]
  exact hspells.setEntries_of_typed hincrease htyped _

theorem configure_of_first {before after : List (String × Value)} {entry : String × Value}
    (hentry : FlagTable.Mistyped t.flagNames entry)
    (hbefore : ∀ other ∈ before, ¬FlagTable.Mistyped t.flagNames other) :
    t.configure (.object (before ++ entry :: after)) =
      .error (.invalidOptions t.style (.notABoolean entry.2.found)) := by
  obtain ⟨build, hspells, -⟩ := t.exists_spells
  apply t.configure_of_fault
  rw [FlagTable.decode, hspells.unset]
  exact hspells.setEntries_of_first hentry hbefore _

theorem configure_filter (entries : List (String × Value)) :
    t.configure (.object (entries.filter (·.1 ∈ t.flagNames))) =
      t.configure (.object entries) := by
  obtain ⟨build, hspells, -⟩ := t.exists_spells
  rw [t.wired.configure, t.wired.configure, Emitter.decode, Emitter.decode, FlagTable.decode,
    FlagTable.decode, hspells.setEntries_filter]

variable {t}

/-- An object is accepted if none of its entries is mistyped. -/
theorem accepts_object_iff {entries : List (String × Value)} (h : KeysIncrease entries) :
    t.Accepts (.object entries) ↔ ∀ entry ∈ entries, ¬FlagTable.Mistyped t.flagNames entry := by
  constructor
  · rintro (hnull | ⟨found, hfound, htyped⟩) ⟨key, value⟩ hmem ⟨hkey, hvalue⟩
    · cases hnull
    · cases hfound
      obtain ⟨b, hb⟩ := htyped key hkey value (h.mem_iff_lookup.mp hmem)
      exact hvalue b hb
  · intro htyped
    refine Or.inr ⟨entries, rfl, ?_⟩
    intro key hkey value hfound
    exact FlagTable.exists_bool hkey (htyped (key, value) (h.mem_iff_lookup.mpr hfound))

theorem configure_of_accepts {payload : Value} (h : payload.KeysIncrease)
    (haccepts : t.Accepts payload) :
    t.configure payload =
      .ok (t.withFlags fun key => FlagTable.readFlag false (payload.get? key)) := by
  rcases haccepts with rfl | ⟨entries, rfl, htyped⟩
  · exact t.configure_null
  · exact t.configure_of_typed h ((accepts_object_iff h).mp (Or.inr ⟨entries, rfl, htyped⟩))

theorem configure_of_not_accepts {payload : Value} (h : payload.KeysIncrease)
    (hrefused : ¬t.Accepts payload) :
    ∃ fault, t.configure payload = .error (.invalidOptions t.style fault) := by
  cases payload with
  | null => exact absurd (Or.inl rfl) hrefused
  | object entries =>
      rcases FlagTable.typed_or_first t.flagNames entries with
        htyped | ⟨before, entry, after, rfl, hentry, hbefore⟩
      · exact absurd ((accepts_object_iff h).mpr htyped) hrefused
      · exact ⟨_, t.configure_of_first hentry hbefore⟩
  | _ => exact ⟨_, t.configure_of_fault rfl⟩

/-- The mistyped entry with the smallest key is the first one. -/
theorem configure_of_smallest {entries : List (String × Value)} (h : KeysIncrease entries)
    {key : String} {value : Value} (hfound : entries.lookup key = some value)
    (hmistyped : FlagTable.Mistyped t.flagNames (key, value))
    (hsmallest : ∀ entry ∈ entries, FlagTable.Mistyped t.flagNames entry → key ≤ entry.1) :
    t.configure (.object entries) =
      .error (.invalidOptions t.style (.notABoolean value.found)) := by
  obtain ⟨before, after, rfl⟩ := List.append_of_mem (h.mem_iff_lookup.mpr hfound)
  apply t.configure_of_first hmistyped
  intro other hother hwrong
  have hlt : other.1 < key := (List.pairwise_append.mp h).2.2 other hother _ (List.mem_cons_self ..)
  exact absurd hlt (not_lt.mpr (hsmallest other (List.mem_append_left _ hother) hwrong))

/-- **What options decode to.** A target accepts `null`, and an object that has
booleans under the names of its flags; each flag is then the boolean under its
name, and false without one. It refuses anything else under its own style, and
an object on account of the mistyped flag whose name has the smallest bytes.
Nothing depends on the order in which a document gives the entries of an
object, or on what the object has under other keys. -/
theorem configure_decided_by_flags (t : Target) {payload : Value} (h : payload.KeysIncrease) :
    ((∃ c, t.configure payload = .ok c) ↔ t.Accepts payload) ∧
      (t.Accepts payload → t.configure payload =
        .ok (t.withFlags fun key => FlagTable.readFlag false (payload.get? key))) ∧
      (¬t.Accepts payload →
        ∃ fault, t.configure payload = .error (.invalidOptions t.style fault)) ∧
      (∀ key value, payload.get? key = some value →
        FlagTable.Mistyped t.flagNames (key, value) →
        (∀ other found, payload.get? other = some found →
          FlagTable.Mistyped t.flagNames (other, found) → Text.bytes key ≤ Text.bytes other) →
        t.configure payload = .error (.invalidOptions t.style (.notABoolean value.found))) ∧
      ∀ entries, payload = .object entries →
        (∀ written, written.Perm entries →
          t.configure (.object (sortEntries written)) = t.configure payload) ∧
        ∀ others, KeysIncrease others →
          (∀ key ∈ t.flagNames, others.lookup key = entries.lookup key) →
          t.configure (.object others) = t.configure payload := by
  refine ⟨?_, configure_of_accepts h, configure_of_not_accepts h, ?_, ?_⟩
  · constructor
    · rintro ⟨c, hc⟩
      by_contra hrefused
      obtain ⟨fault, hfails⟩ := configure_of_not_accepts h hrefused
      rw [hc] at hfails
      cases hfails
    · intro haccepts
      exact ⟨_, configure_of_accepts h haccepts⟩
  · intro key value hfound hmistyped hsmallest
    cases payload with
    | object entries =>
        apply configure_of_smallest h hfound hmistyped
        rintro ⟨other, found⟩ hother hwrong
        -- entries are in the order of their keys, which is the one of their bytes
        have hbytes := hsmallest other found (h.mem_iff_lookup.mp hother) hwrong
        exact not_lt.mp fun hlt => hbytes (Text.lt_iff_bytes_lt.mp hlt)
    | _ => cases hfound
  · rintro entries rfl
    constructor
    · intro written hperm
      rw [sortEntries_of_perm h hperm]
    · intro others hothers hsame
      rw [← t.configure_filter others, filter_eq_of_lookup_eq h hothers hsame, t.configure_filter]

/-- Two mistyped flags, of which a document has the second one in front, and a key that names no
flag. -/
theorem smallest_mistyped_flag_decides :
    let first : String × Value := ("allCrud", .text "yes")
    let rest : List (String × Value) := [("select", .int 1), ("table", .list [.null])]
    (Value.object (first :: rest)).KeysIncrease ∧
      javaMapperXml.configure (.object (sortEntries (rest ++ [first]))) =
        .error (.invalidOptions .mapperXml (.notABoolean (.text "yes"))) ∧
      (GenerationError.invalidOptions .mapperXml (.notABoolean (.text "yes"))).message =
        "invalid options for style 'mybatis-xml': " ++
          "invalid type: string \"yes\", expected a boolean" := by
  intro first rest
  have hincrease : KeysIncrease (first :: rest) := by decide
  have hmistyped : FlagTable.Mistyped javaMapperXml.flagNames first :=
    ⟨by decide, fun b => Value.noConfusion⟩
  obtain ⟨-, -, -, hsmallest, hsame⟩ :=
    @configure_decided_by_flags javaMapperXml (.object (first :: rest)) hincrease
  refine ⟨hincrease, ?_, by decide +kernel⟩
  rw [(hsame _ rfl).1 (rest ++ [first]) (List.perm_append_singleton first rest)]
  apply hsmallest "allCrud" (.text "yes") rfl hmistyped
  rintro other found - ⟨hother, -⟩
  have hleast : ∀ name ∈ javaMapperXml.flagNames, ¬name < "allCrud" := by decide
  exact fun hbytes => hleast other hother (Text.lt_iff_bytes_lt.mpr hbytes)

end Target

end SchemaCodegen
