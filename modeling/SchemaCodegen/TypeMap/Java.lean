import SchemaCodegen.TypeMap.Basic

/-!
# Java types

Types are boxed, so that every field can hold `null`.
-/

namespace SchemaCodegen.TypeTable

def java : TypeTable where
  unknown := "Object"
  arrayOf := bracketed
  entries
    | .mySql =>
      [(["tinyint"], "Byte"),
       (["smallint"], "Short"),
       (["mediumint", "int", "integer"], "Integer"),
       (["bigint"], "Long"),
       (["decimal", "numeric"], "BigDecimal"),
       (["float"], "Float"),
       (["double", "double precision", "real"], "Double"),
       (["bit", "bool", "boolean"], "Boolean"),
       (["char", "varchar", "tinytext", "text", "mediumtext", "longtext", "enum", "set", "json"],
        "String"),
       (["date"], "LocalDate"),
       (["datetime", "timestamp"], "LocalDateTime"),
       (["time"], "LocalTime"),
       (["year"], "Year"),
       (["binary", "varbinary", "tinyblob", "blob", "mediumblob", "longblob"], "byte[]")]
    | .postgres =>
      [(["smallint", "int2", "smallserial"], "Short"),
       (["integer", "int", "int4", "serial"], "Integer"),
       (["bigint", "int8", "bigserial", "oid"], "Long"),
       (["decimal", "numeric", "money"], "BigDecimal"),
       (["real", "float4"], "Float"),
       (["double precision", "float8"], "Double"),
       (["boolean", "bool"], "Boolean"),
       (["varchar", "character varying", "char", "character", "bpchar", "text", "citext", "name"],
        "String"),
       (["date"], "LocalDate"),
       (["time", "time without time zone"], "LocalTime"),
       (["timetz", "time with time zone"], "OffsetTime"),
       (["timestamp", "timestamp without time zone"], "LocalDateTime"),
       (["timestamptz", "timestamp with time zone"], "OffsetDateTime"),
       (["interval"], "Duration"),
       (["bytea"], "byte[]"),
       (["uuid"], "UUID"),
       (["json", "jsonb", "xml"], "String"),
       (["inet", "cidr", "macaddr"], "String")]
    -- `tinyint` is unsigned here, so a signed byte cannot hold it.
    | .sqlServer =>
      [(["bit"], "Boolean"),
       (["tinyint", "smallint"], "Short"),
       (["int"], "Integer"),
       (["bigint"], "Long"),
       (["decimal", "numeric", "money", "smallmoney"], "BigDecimal"),
       (["real"], "Float"),
       (["float"], "Double"),
       (["char", "varchar", "nchar", "nvarchar", "text", "ntext", "xml"], "String"),
       (["date"], "LocalDate"),
       (["time"], "LocalTime"),
       (["datetime", "datetime2", "smalldatetime"], "LocalDateTime"),
       (["datetimeoffset"], "OffsetDateTime"),
       (["uniqueidentifier"], "UUID"),
       (["binary", "varbinary", "image", "rowversion", "timestamp"], "byte[]")]

end SchemaCodegen.TypeTable
