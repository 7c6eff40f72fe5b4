import SchemaDdl.Dialect.Basic

/-!
# Microsoft SQL Server

Autoincrement is a column modifier, and CREATE TABLE takes no IF NOT EXISTS: a table that may
exist already is guarded by a test of its object id.
-/

namespace SchemaDdl.Dialect

def mssqlTypes : List (FieldType × SqlType) :=
  [(.scalar .i16, .fixed "smallint"),
   (.scalar .i32, .fixed "int"),
   (.scalar .i64, .fixed "bigint"),
   (.scalar .u8, .fixed "tinyint"),
   (.scalar .bool, .fixed "bit"),
   (.scalar .f32, .fixed "real"),
   (.scalar .f64, .fixed "float"),
   (.scalar .decimal, .fixed "smallmoney"),
   (.scalar .string, .varying "nvarchar"),
   (.scalar .chars, .varying "nvarchar"),
   (.scalar .bytes, .varying "varbinary"),
   (.scalar .uuid, .fixed "uniqueidentifier"),
   (.scalar .dateTime, .fixed "datetime"),
   (.scalar .time, .fixed "time"),
   (.scalar .xml, .fixed "xml")]

/-- The guard that runs what follows only if no such table exists. -/
def objectGuard (qualified : String) : String :=
  "IF OBJECT_ID(N'" ++ qualified ++ "', N'U') IS NULL\nBEGIN"

def mssql : Dialect where
  name := "mssql"
  defaultSchema := "dbo"
  types := mssqlTypes
  maxSpelling := some "max"
  autoIncrementModifier := some "IDENTITY(1,1)"
  primaryKeyName table := "PK_" ++ table
  foreignKeyName table column refTable refColumn :=
    "FK_" ++ table ++ column ++ "_TO_" ++ refTable ++ refColumn
  uniqueName table column := "UC_" ++ table ++ column
  indexName table column := "INX_" ++ table ++ column
  defaultValueSql table column literal :=
    "ALTER TABLE " ++ table.qualified ++ " ADD DEFAULT " ++ literal ++ " FOR " ++ column ++ ";"
  computedColumnSql column _ expression := column ++ " AS (" ++ expression ++ ") PERSISTED"
  inlineIfNotExists := false
  beforeCreateTable table ifNotExists :=
    if ifNotExists then some (objectGuard table.qualified) else none
  afterCreateTable _ ifNotExists := if ifNotExists then some "END;" else none

end SchemaDdl.Dialect
