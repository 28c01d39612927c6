import SchemaCodegen.TypeMap.Basic

/-!
# C# types

The table of C# types, and the mark of a type that admits `null`: a value type carries exactly
one question mark, a reference type at least one.
-/

namespace SchemaCodegen

namespace TypeTable

def csharp : TypeTable where
  unknown := "object"
  arrayOf := bracketed
  entries
    | .mySql =>
      [(["tinyint"], "byte"),
       (["smallint"], "short"),
       (["mediumint", "int", "integer", "year"], "int"),
       (["bigint"], "long"),
       (["decimal", "numeric"], "decimal"),
       (["float"], "float"),
       (["double", "double precision", "real"], "double"),
       (["bit", "bool", "boolean"], "bool"),
       (["date", "datetime", "timestamp"], "DateTime"),
       (["time"], "TimeSpan"),
       (["char", "varchar", "tinytext", "text", "mediumtext", "longtext", "enum", "set", "json"],
        "string"),
       (["binary", "varbinary", "tinyblob", "blob", "mediumblob", "longblob"], "byte[]")]
    | .postgres =>
      [(["smallint", "int2", "smallserial"], "short"),
       (["integer", "int", "int4", "serial"], "int"),
       (["bigint", "int8", "bigserial", "oid"], "long"),
       (["numeric", "decimal", "money"], "decimal"),
       (["real", "float4"], "float"),
       (["double precision", "float8"], "double"),
       (["boolean", "bool"], "bool"),
       (["date", "timestamp", "timestamp without time zone"], "DateTime"),
       (["timestamptz", "timestamp with time zone", "timetz", "time with time zone"],
        "DateTimeOffset"),
       (["time", "time without time zone", "interval"], "TimeSpan"),
       (["uuid"], "Guid"),
       (["text", "varchar", "character varying", "char", "character", "bpchar", "name", "citext"],
        "string"),
       (["json", "jsonb", "xml"], "string"),
       (["inet", "cidr", "macaddr"], "string"),
       (["bytea"], "byte[]")]
    | .sqlServer =>
      [(["bit"], "bool"),
       (["tinyint"], "byte"),
       (["smallint"], "short"),
       (["int"], "int"),
       (["bigint"], "long"),
       (["decimal", "numeric", "money", "smallmoney"], "decimal"),
       (["float"], "double"),
       (["real"], "float"),
       (["date", "datetime", "datetime2", "smalldatetime"], "DateTime"),
       (["time"], "TimeSpan"),
       (["datetimeoffset"], "DateTimeOffset"),
       (["char", "nchar", "varchar", "nvarchar", "text", "ntext", "xml"], "string"),
       (["binary", "varbinary", "image", "rowversion", "timestamp"], "byte[]"),
       (["uniqueidentifier"], "Guid")]

end TypeTable

namespace CSharpType

/-- The value types, which hold `null` only when marked. -/
def valueTypes : List String :=
  ["bool", "byte", "sbyte", "short", "ushort", "int", "uint", "long", "ulong", "float", "double",
   "decimal", "char", "DateTime", "DateTimeOffset", "DateOnly", "TimeOnly", "TimeSpan", "Guid"]

def withoutMarks (type : String) : String :=
  String.ofList (type.toList.reverse.dropWhile (· == '?')).reverse

/-- Whether the type, marks aside, is a value type. -/
def isValueType (type : String) : Bool := valueTypes.contains (withoutMarks type)

/-- The type marked as admitting `null`. -/
def markNullable (type : String) : String :=
  if isValueType type then withoutMarks type ++ "?"
  else if ['?'].isSuffixOf type.toList then type
  else type ++ "?"

end CSharpType

end SchemaCodegen
