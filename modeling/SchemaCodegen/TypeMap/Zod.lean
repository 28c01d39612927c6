import SchemaCodegen.TypeMap.Basic

/-!
# Zod schemas

The table of Zod schemas, each written as what follows `z.` in an expression.
-/

namespace SchemaCodegen.TypeTable

/-- The schema of plain strings, the only one that takes string refinements. -/
def zodString : String := "string()"

def zod : TypeTable where
  unknown := "any()"
  arrayOf element := "array(z." ++ element ++ ")"
  entries
    | .mySql =>
      [(["tinyint", "smallint", "mediumint", "int", "integer", "bigint", "long", "decimal",
         "numeric", "float", "double", "double precision", "real", "year"], "number()"),
       (["char", "varchar", "tinytext", "text", "mediumtext", "longtext", "enum", "set", "time"],
        zodString),
       (["date", "datetime", "timestamp"], "date()"),
       (["bit", "bool", "boolean"], "boolean()"),
       (["binary", "varbinary", "tinyblob", "blob", "mediumblob", "longblob"],
        "instanceof(Uint8Array)"),
       (["json"], "record(z.string(), z.any())")]
    | .postgres =>
      [(["smallint", "int2", "integer", "int", "int4", "serial", "smallserial", "bigint", "int8",
         "bigserial", "decimal", "numeric", "money", "real", "float4", "double precision",
         "float8", "oid"], "number()"),
       (["varchar", "character varying", "char", "character", "bpchar", "text", "citext", "name",
         "inet", "cidr", "macaddr", "xml", "interval"], zodString),
       (["boolean", "bool"], "boolean()"),
       (["date", "timestamp", "timestamp without time zone", "timestamptz",
         "timestamp with time zone"], "date()"),
       (["time", "time without time zone", "timetz", "time with time zone"], zodString),
       (["uuid"], "string().uuid()"),
       (["json", "jsonb"], "any()"),
       (["bytea"], "instanceof(Uint8Array)")]
    | .sqlServer =>
      [(["int", "bigint", "smallint", "tinyint", "decimal", "numeric", "float", "real", "money",
         "smallmoney"], "number()"),
       (["varchar", "nvarchar", "char", "nchar", "text", "ntext", "xml", "time"], zodString),
       (["datetime", "datetime2", "smalldatetime", "date", "datetimeoffset"], "date()"),
       (["bit"], "boolean()"),
       (["uniqueidentifier"], "string().uuid()"),
       (["binary", "varbinary", "image", "rowversion", "timestamp"], "instanceof(Uint8Array)")]

end SchemaCodegen.TypeTable
