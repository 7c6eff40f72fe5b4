import SchemaDdl.Dialect.Basic

/-!
# PostgreSQL

Autoincrement lives in the type itself.
-/

namespace SchemaDdl.Dialect

def postgresTypes : List (FieldType × SqlType) :=
  [(.scalar .i16, .fixed "smallint"),
   (.scalar .i32, .fixed "integer"),
   (.scalar .i64, .fixed "bigint"),
   (.scalar .u8, .fixed "smallint"),
   (.scalar .bool, .fixed "boolean"),
   (.scalar .f32, .fixed "real"),
   (.scalar .f64, .fixed "double precision"),
   (.scalar .decimal, .fixed "numeric"),
   (.scalar .string, .varying "varchar"),
   (.scalar .chars, .varying "varchar"),
   (.scalar .bytes, .fixed "bytea"),
   (.scalar .uuid, .fixed "uuid"),
   (.scalar .dateTime, .fixed "timestamp"),
   (.scalar .time, .fixed "time without time zone")]

/-- The serial types of the integer keys. -/
def serialType : FieldType → Option String
  | .scalar .i32 => some "SERIAL"
  | .scalar .i64 => some "BIGSERIAL"
  | _ => none

def postgres : Dialect where
  name := "postgres"
  defaultSchema := "public"
  types := postgresTypes
  autoIncrementType := serialType
  primaryKeyName table := table ++ "_pkey"
  foreignKeyName table column refTable refColumn :=
    table ++ column ++ "_to_" ++ refTable ++ refColumn ++ "_fkey"
  uniqueName table column := table ++ column ++ "_unique"
  indexName table column := table ++ column ++ "_inx"

end SchemaDdl.Dialect
