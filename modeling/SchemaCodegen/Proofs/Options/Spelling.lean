import Mathlib.Data.List.Basic
import Mathlib.Logic.Function.Basic
import SchemaCodegen.Options.Styles

/-!
# Options by the names of their flags

The options of every style can be written down at once, given a truth value for
each name. A table of flags spells such a description out: it starts from the
options with every flag false, it names the flags that the description names,
and to set a flag is to change the truth value of its name. Decoding is proved
right for any table that spells a description out; that the tables of the
styles do is checked here.
-/

namespace SchemaCodegen

namespace FlagTable

/-- The table spells `build` out, the options that truth values for `names` give. -/
structure Spells {α : Type} (t : FlagTable α) (names : List String)
    (build : (String → Bool) → α) : Prop where
  keys : t.flags.map (·.key) = names
  unset : t.unset = build fun _ => false
  /-- To set every flag is to build the options. -/
  fold : ∀ f, t.flags.foldl (fun options flag => flag.set (f flag.key) options) t.unset = build f
  /-- To set a flag is to change the truth value of its name. -/
  set : ∀ flag ∈ t.flags, ∀ b f, flag.set b (build f) = build (Function.update f flag.key b)

/-- No other names matter. -/
theorem Spells.congr {α : Type} {t : FlagTable α} {names : List String}
    {build : (String → Bool) → α} (h : t.Spells names build) {f g : String → Bool}
    (hsame : ∀ key ∈ names, f key = g key) : build f = build g := by
  rw [← h.fold f, ← h.fold g]
  apply List.foldl_ext
  intro options flag hflag
  rw [hsame flag.key (h.keys ▸ List.mem_map_of_mem hflag)]

end FlagTable

/-! ## Java -/

def JavaDtoOptions.names : List String :=
  ["getter", "setter", "data", "noArgsConstructor", "allArgsConstructor", "builder",
   "serializable", "swaggerAnnotations", "jacksonAnnotations", "extraSpacing"]

def JavaDtoOptions.build (flag : String → Bool) : JavaDtoOptions where
  getter := flag "getter"
  setter := flag "setter"
  data := flag "data"
  noArgsConstructor := flag "noArgsConstructor"
  allArgsConstructor := flag "allArgsConstructor"
  builder := flag "builder"
  serializable := flag "serializable"
  swaggerAnnotations := flag "swaggerAnnotations"
  jacksonAnnotations := flag "jacksonAnnotations"
  extraSpacing := flag "extraSpacing"

theorem JavaDtoOptions.spells : table.Spells names build where
  keys := rfl
  unset := rfl
  fold _ := rfl
  set := by simp [table, build, Function.update_apply]

def JavaRecordOptions.names : List String :=
  ["builder", "swaggerAnnotations", "jacksonAnnotations", "extraSpacing"]

def JavaRecordOptions.build (flag : String → Bool) : JavaRecordOptions where
  builder := flag "builder"
  swaggerAnnotations := flag "swaggerAnnotations"
  jacksonAnnotations := flag "jacksonAnnotations"
  extraSpacing := flag "extraSpacing"

theorem JavaRecordOptions.spells : table.Spells names build where
  keys := rfl
  unset := rfl
  fold _ := rfl
  set := by simp [table, build, Function.update_apply]

def MapperOptions.names : List String := ["allCrud", "select", "insert", "update", "delete"]

def MapperOptions.build (flag : String → Bool) : MapperOptions where
  allCrud := flag "allCrud"
  select := flag "select"
  insert := flag "insert"
  update := flag "update"
  delete := flag "delete"

theorem MapperOptions.spells : table.Spells names build where
  keys := rfl
  unset := rfl
  fold _ := rfl
  set := by simp [table, build, Function.update_apply]

/-! ## C# -/

def CSharpDtoOptions.names : List String :=
  ["getter", "setter", "nullable", "camelCaseProperties", "jsonPropertyName", "extraSpacing"]

def CSharpDtoOptions.build (flag : String → Bool) : CSharpDtoOptions where
  getter := flag "getter"
  setter := flag "setter"
  nullable := flag "nullable"
  camelCaseProperties := flag "camelCaseProperties"
  jsonPropertyName := flag "jsonPropertyName"
  extraSpacing := flag "extraSpacing"

theorem CSharpDtoOptions.spells : table.Spells names build where
  keys := rfl
  unset := rfl
  fold _ := rfl
  set := by simp [table, build, Function.update_apply]

def CSharpRecordOptions.names : List String :=
  ["positional", "withInit", "nullable", "camelCaseProperties", "jsonPropertyName", "extraSpacing"]

def CSharpRecordOptions.build (flag : String → Bool) : CSharpRecordOptions where
  positional := flag "positional"
  withInit := flag "withInit"
  nullable := flag "nullable"
  camelCaseProperties := flag "camelCaseProperties"
  jsonPropertyName := flag "jsonPropertyName"
  extraSpacing := flag "extraSpacing"

theorem CSharpRecordOptions.spells : table.Spells names build where
  keys := rfl
  unset := rfl
  fold _ := rfl
  set := by simp [table, build, Function.update_apply]

/-! ## TypeScript -/

def TypeScriptOptions.names : List String :=
  ["exportAllTypes", "readonlyProperties", "optionalProperties", "strictNullChecks", "comments",
   "jsDocComments", "partialType", "readonlyType", "extraSpacing"]

def TypeScriptOptions.build (flag : String → Bool) : TypeScriptOptions where
  exportAllTypes := flag "exportAllTypes"
  readonlyProperties := flag "readonlyProperties"
  optionalProperties := flag "optionalProperties"
  strictNullChecks := flag "strictNullChecks"
  comments := flag "comments"
  jsDocComments := flag "jsDocComments"
  partialType := flag "partialType"
  readonlyType := flag "readonlyType"
  extraSpacing := flag "extraSpacing"

theorem TypeScriptOptions.spells : table.Spells names build where
  keys := rfl
  unset := rfl
  fold _ := rfl
  set := by simp [table, build, Function.update_apply]

def ZodOptions.names : List String :=
  ["exportAllTypes", "allOptional", "comments", "nullable", "nullish", "maxValue", "trim"]

def ZodOptions.build (flag : String → Bool) : ZodOptions where
  exportAllTypes := flag "exportAllTypes"
  allOptional := flag "allOptional"
  comments := flag "comments"
  nullable := flag "nullable"
  nullish := flag "nullish"
  maxValue := flag "maxValue"
  trim := flag "trim"

theorem ZodOptions.spells : table.Spells names build where
  keys := rfl
  unset := rfl
  fold _ := rfl
  set := by simp [table, build, Function.update_apply]

end SchemaCodegen
