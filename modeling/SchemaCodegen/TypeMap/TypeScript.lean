import SchemaCodegen.TypeMap.Basic

/-!
# TypeScript types

The table of TypeScript types. An array over a union puts the union in parentheses, because the
brackets would bind to its last member alone.
-/

namespace SchemaCodegen.TypeTable

def typescript : TypeTable where
  unknown := "any"
  arrayOf element :=
    if element.toList.contains '|' then "(" ++ element ++ ")[]" else bracketed element
  entries
    | .mySql =>
      [(["tinyint", "smallint", "mediumint", "int", "integer", "bigint", "long"], "number"),
       (["decimal", "numeric", "float", "double", "double precision", "real", "year"], "number"),
       (["bit", "bool", "boolean"], "boolean"),
       (["char", "varchar", "tinytext", "text", "mediumtext", "longtext", "enum", "set"],
        "string"),
       (["date", "datetime", "timestamp"], "string | Date"),
       (["time"], "string"),
       (["binary", "varbinary", "tinyblob", "blob", "mediumblob", "longblob"], "Uint8Array"),
       (["json"], "Record<string, any>")]
    | .postgres =>
      [(["int2", "int4", "int8", "smallint", "integer", "int", "bigint", "serial", "smallserial",
         "bigserial", "oid"], "number"),
       (["float4", "float8", "real", "double precision", "numeric", "decimal", "money"],
        "number"),
       (["bool", "boolean"], "boolean"),
       (["text", "varchar", "character varying", "bpchar", "char", "character", "name", "citext",
         "uuid", "inet", "cidr", "macaddr", "xml", "interval"], "string"),
       (["date", "timestamp", "timestamp without time zone", "timestamptz",
         "timestamp with time zone", "time", "time without time zone", "timetz",
         "time with time zone"], "string | Date"),
       (["json", "jsonb"], "Record<string, any>"),
       (["bytea"], "Uint8Array"),
       (["int4range", "int8range", "numrange", "tsrange", "tstzrange", "daterange"], "string")]
    | .sqlServer =>
      [(["int", "bigint", "smallint", "tinyint", "decimal", "numeric", "float", "real", "money",
         "smallmoney"], "number"),
       (["varchar", "nvarchar", "char", "nchar", "text", "ntext", "uniqueidentifier", "xml"],
        "string"),
       (["datetime", "datetime2", "smalldatetime", "date", "time", "datetimeoffset"],
        "string | Date"),
       (["bit"], "boolean"),
       (["binary", "varbinary", "image", "rowversion", "timestamp"], "Uint8Array"),
       (["sql_variant", "hierarchyid", "geometry", "geography"], "any")]

end SchemaCodegen.TypeTable
