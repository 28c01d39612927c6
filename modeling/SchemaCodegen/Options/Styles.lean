import SchemaCodegen.Options.Basic

/-!
# The options of each style

Each style has its own flags, under the names that requests use.
-/

namespace SchemaCodegen

structure JavaDtoOptions where
  /-- A getter for each field. -/
  getter : Bool
  /-- A setter for each field. -/
  setter : Bool
  /-- Getters, setters and more; stands in for the two flags above. -/
  data : Bool
  noArgsConstructor : Bool
  allArgsConstructor : Bool
  builder : Bool
  /-- The class implements `Serializable`. -/
  serializable : Bool
  /-- Column comments become schema descriptions. -/
  swaggerAnnotations : Bool
  /-- Fields carry their JSON names. -/
  jacksonAnnotations : Bool
  /-- A blank line between fields. -/
  extraSpacing : Bool
deriving DecidableEq, Repr

def JavaDtoOptions.table : FlagTable JavaDtoOptions where
  unset := ⟨false, false, false, false, false, false, false, false, false, false⟩
  flags :=
    [⟨"getter", (·.getter), fun b o => { o with getter := b }⟩,
     ⟨"setter", (·.setter), fun b o => { o with setter := b }⟩,
     ⟨"data", (·.data), fun b o => { o with data := b }⟩,
     ⟨"noArgsConstructor", (·.noArgsConstructor), fun b o => { o with noArgsConstructor := b }⟩,
     ⟨"allArgsConstructor", (·.allArgsConstructor), fun b o => { o with allArgsConstructor := b }⟩,
     ⟨"builder", (·.builder), fun b o => { o with builder := b }⟩,
     ⟨"serializable", (·.serializable), fun b o => { o with serializable := b }⟩,
     ⟨"swaggerAnnotations", (·.swaggerAnnotations), fun b o => { o with swaggerAnnotations := b }⟩,
     ⟨"jacksonAnnotations", (·.jacksonAnnotations), fun b o => { o with jacksonAnnotations := b }⟩,
     ⟨"extraSpacing", (·.extraSpacing), fun b o => { o with extraSpacing := b }⟩]

structure JavaRecordOptions where
  builder : Bool
  swaggerAnnotations : Bool
  jacksonAnnotations : Bool
  extraSpacing : Bool
deriving DecidableEq, Repr

def JavaRecordOptions.table : FlagTable JavaRecordOptions where
  unset := ⟨false, false, false, false⟩
  flags :=
    [⟨"builder", (·.builder), fun b o => { o with builder := b }⟩,
     ⟨"swaggerAnnotations", (·.swaggerAnnotations), fun b o => { o with swaggerAnnotations := b }⟩,
     ⟨"jacksonAnnotations", (·.jacksonAnnotations), fun b o => { o with jacksonAnnotations := b }⟩,
     ⟨"extraSpacing", (·.extraSpacing), fun b o => { o with extraSpacing := b }⟩]

/-- Statements of a MyBatis mapper. -/
structure MapperOptions where
  /-- Every statement, whatever the other flags say. -/
  allCrud : Bool
  select : Bool
  insert : Bool
  update : Bool
  delete : Bool
deriving DecidableEq, Repr

def MapperOptions.table : FlagTable MapperOptions where
  unset := ⟨false, false, false, false, false⟩
  flags :=
    [⟨"allCrud", (·.allCrud), fun b o => { o with allCrud := b }⟩,
     ⟨"select", (·.select), fun b o => { o with select := b }⟩,
     ⟨"insert", (·.insert), fun b o => { o with insert := b }⟩,
     ⟨"update", (·.update), fun b o => { o with update := b }⟩,
     ⟨"delete", (·.delete), fun b o => { o with delete := b }⟩]

structure CSharpDtoOptions where
  /-- A `get` accessor; without accessors members are fields. -/
  getter : Bool
  /-- A `set` accessor, which brings a `get` accessor with it. -/
  setter : Bool
  /-- Nullable columns have nullable types. -/
  nullable : Bool
  /-- Names in camel case. -/
  camelCaseProperties : Bool
  /-- Members carry their column name for JSON. -/
  jsonPropertyName : Bool
  extraSpacing : Bool
deriving DecidableEq, Repr

def CSharpDtoOptions.table : FlagTable CSharpDtoOptions where
  unset := ⟨false, false, false, false, false, false⟩
  flags :=
    [⟨"getter", (·.getter), fun b o => { o with getter := b }⟩,
     ⟨"setter", (·.setter), fun b o => { o with setter := b }⟩,
     ⟨"nullable", (·.nullable), fun b o => { o with nullable := b }⟩,
     ⟨"camelCaseProperties", (·.camelCaseProperties),
       fun b o => { o with camelCaseProperties := b }⟩,
     ⟨"jsonPropertyName", (·.jsonPropertyName), fun b o => { o with jsonPropertyName := b }⟩,
     ⟨"extraSpacing", (·.extraSpacing), fun b o => { o with extraSpacing := b }⟩]

structure CSharpRecordOptions where
  /-- Parameters in place of a body. -/
  positional : Bool
  /-- An `init` accessor in place of `set`. -/
  withInit : Bool
  nullable : Bool
  camelCaseProperties : Bool
  jsonPropertyName : Bool
  extraSpacing : Bool
deriving DecidableEq, Repr

def CSharpRecordOptions.table : FlagTable CSharpRecordOptions where
  unset := ⟨false, false, false, false, false, false⟩
  flags :=
    [⟨"positional", (·.positional), fun b o => { o with positional := b }⟩,
     ⟨"withInit", (·.withInit), fun b o => { o with withInit := b }⟩,
     ⟨"nullable", (·.nullable), fun b o => { o with nullable := b }⟩,
     ⟨"camelCaseProperties", (·.camelCaseProperties),
       fun b o => { o with camelCaseProperties := b }⟩,
     ⟨"jsonPropertyName", (·.jsonPropertyName), fun b o => { o with jsonPropertyName := b }⟩,
     ⟨"extraSpacing", (·.extraSpacing), fun b o => { o with extraSpacing := b }⟩]

structure TypeScriptOptions where
  exportAllTypes : Bool
  readonlyProperties : Bool
  /-- Every property is optional. -/
  optionalProperties : Bool
  /-- Nullable columns have a union with `null` in place of the optional mark. -/
  strictNullChecks : Bool
  /-- Column comments above properties. -/
  comments : Bool
  /-- Types in comments above properties. -/
  jsDocComments : Bool
  /-- An alias for the partial type. -/
  partialType : Bool
  /-- An alias for the readonly type. -/
  readonlyType : Bool
  extraSpacing : Bool
deriving DecidableEq, Repr

def TypeScriptOptions.table : FlagTable TypeScriptOptions where
  unset := ⟨false, false, false, false, false, false, false, false, false⟩
  flags :=
    [⟨"exportAllTypes", (·.exportAllTypes), fun b o => { o with exportAllTypes := b }⟩,
     ⟨"readonlyProperties", (·.readonlyProperties), fun b o => { o with readonlyProperties := b }⟩,
     ⟨"optionalProperties", (·.optionalProperties), fun b o => { o with optionalProperties := b }⟩,
     ⟨"strictNullChecks", (·.strictNullChecks), fun b o => { o with strictNullChecks := b }⟩,
     ⟨"comments", (·.comments), fun b o => { o with comments := b }⟩,
     ⟨"jsDocComments", (·.jsDocComments), fun b o => { o with jsDocComments := b }⟩,
     ⟨"partialType", (·.partialType), fun b o => { o with partialType := b }⟩,
     ⟨"readonlyType", (·.readonlyType), fun b o => { o with readonlyType := b }⟩,
     ⟨"extraSpacing", (·.extraSpacing), fun b o => { o with extraSpacing := b }⟩]

structure ZodOptions where
  /-- An alias for the inferred type. -/
  exportAllTypes : Bool
  allOptional : Bool
  /-- Column comments behind fields. -/
  comments : Bool
  /-- Every field admits `null`. -/
  nullable : Bool
  /-- Every field admits `null` and absence. -/
  nullish : Bool
  /-- Strings are bounded by the length of the column. -/
  maxValue : Bool
  trim : Bool
deriving DecidableEq, Repr

def ZodOptions.table : FlagTable ZodOptions where
  unset := ⟨false, false, false, false, false, false, false⟩
  flags :=
    [⟨"exportAllTypes", (·.exportAllTypes), fun b o => { o with exportAllTypes := b }⟩,
     ⟨"allOptional", (·.allOptional), fun b o => { o with allOptional := b }⟩,
     ⟨"comments", (·.comments), fun b o => { o with comments := b }⟩,
     ⟨"nullable", (·.nullable), fun b o => { o with nullable := b }⟩,
     ⟨"nullish", (·.nullish), fun b o => { o with nullish := b }⟩,
     ⟨"maxValue", (·.maxValue), fun b o => { o with maxValue := b }⟩,
     ⟨"trim", (·.trim), fun b o => { o with trim := b }⟩]

end SchemaCodegen
