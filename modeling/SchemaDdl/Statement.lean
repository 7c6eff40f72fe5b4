import SchemaDdl.Dialect.Basic
import SchemaDdl.Sequence
import SchemaDdl.Text.Literal

/-!
# Statements

The text of each statement under a dialect.  The block of a table is its CREATE TABLE followed by
the primary key, foreign keys, unique constraints, defaults and indexes, each group in column
order, between what the dialect puts before and after.  The types of all columns are settled
before any foreign key is resolved, so a table with a type that the dialect does not map leaves
the resolver alone.
-/

namespace SchemaDdl.Statement

open SchemaDdl.Text (nonBlank literal)

/-- The SQL type of a column: the type written on it, else for autoincrement columns that are
not nullable the dialect's own, else what the dialect maps its lookup key to. -/
def columnType (d : Dialect) (c : Column) : Except DdlError String :=
  match nonBlank c.typeName with
  | some written => .ok written
  | none =>
    let key := c.type.lookupKey
    let serial := if c.autoIncrement && !c.type.isNullable then d.autoIncrementType key else none
    match serial with
    | some name => .ok name
    | none =>
      match d.mapType key with
      | some t => .ok (t.sized c.maxLength d.maxSpelling)
      | none => .error (.unsupportedType c.type c.name)

/-- What follows the type of an autoincrement column, with the blank before it. -/
def modifier (d : Dialect) (c : Column) : String :=
  match d.autoIncrementModifier with
  | some text => if c.autoIncrement then " " ++ text else ""
  | none => ""

/-- One line of a column list, without the comma. -/
def columnLine (d : Dialect) (c : Column) : Except DdlError String :=
  match columnType d c with
  | .error e => .error e
  | .ok type =>
    match c.computedExpression with
    | some expression => .ok ("    " ++ d.computedColumnSql c.name type expression)
    | none =>
      .ok ("    " ++ c.name ++ " " ++ type ++ modifier d c
        ++ (if c.required then " NOT NULL" else " NULL"))

/-- The lines of a column list, or the failure of the first column that has no type. -/
def columnLines (d : Dialect) : List Column → Except DdlError (List String)
  | [] => .ok []
  | c :: rest =>
    match columnLine d c with
    | .error e => .error e
    | .ok line =>
      match columnLines d rest with
      | .error e => .error e
      | .ok lines => .ok (line :: lines)

def addConstraint (t : Table) (name : String) : String :=
  "ALTER TABLE " ++ t.qualified ++ " ADD CONSTRAINT " ++ name

def tableStatement (d : Dialect) (t : Table) (ifNotExists : Bool) (lines : List String) : String :=
  "CREATE TABLE " ++ (if ifNotExists && d.inlineIfNotExists then "IF NOT EXISTS " else "")
    ++ t.qualified ++ " (\n" ++ ",\n".intercalate lines ++ "\n);"

def primaryKey (d : Dialect) (t : Table) : List String :=
  let keys := t.columns.filter Column.primaryKey
  if keys.isEmpty then []
  else
    [addConstraint t (d.primaryKeyName t.name) ++ " PRIMARY KEY ("
      ++ ", ".intercalate (keys.map Column.name) ++ ");"]

def foreignKey (d : Dialect) (t : Table) (c : Column) (target : ReferencedColumn) : String :=
  addConstraint t (d.foreignKeyName t.name c.name target.table.name target.column)
    ++ " FOREIGN KEY (" ++ c.name ++ ") REFERENCES " ++ target.table.schemaOr d.defaultSchema
    ++ "." ++ target.table.name ++ " (" ++ target.column ++ ");"

/-- The foreign keys of some columns, resolving their targets in turn. -/
def foreignKeys (d : Dialect) (t : Table) (r : Resolver) : List Column → List String × Resolver
  | [] => ([], r)
  | c :: rest =>
    match c.foreignKey with
    | none => foreignKeys d t r rest
    | some key =>
      let (target, r) := r.resolveReference key
      let (statements, r) := foreignKeys d t r rest
      (foreignKey d t c target :: statements, r)

def uniques (d : Dialect) (t : Table) : List String :=
  (t.columns.filter Column.unique).map fun c =>
    addConstraint t (d.uniqueName t.name c.name) ++ " UNIQUE (" ++ c.name ++ ");"

def defaults (d : Dialect) (t : Table) : List String :=
  t.columns.filterMap fun c =>
    c.defaultLiteral.map fun value => d.defaultValueSql t c.name (literal value)

def indexes (d : Dialect) (t : Table) : List String :=
  (t.columns.filter Column.index).map fun c =>
    "CREATE " ++ (if c.indexUnique then "UNIQUE " else "") ++ "INDEX "
      ++ d.indexName t.name c.name ++ " ON " ++ t.qualified ++ " (" ++ c.name ++ ");"

/-- The block of a table, statement by statement. -/
def createTableParts (d : Dialect) (r : Resolver) (t : Table) (ifNotExists : Bool) :
    Except DdlError (List String) × Resolver :=
  match columnLines d t.columns with
  | .error e => (.error e, r)
  | .ok lines =>
    let (references, r) := foreignKeys d t r t.columns
    (.ok ((d.beforeCreateTable t ifNotExists).toList
      ++ tableStatement d t ifNotExists lines :: primaryKey d t
      ++ references ++ uniques d t ++ defaults d t ++ indexes d t
      ++ (d.afterCreateTable t ifNotExists).toList), r)

def createTable (d : Dialect) (r : Resolver) (t : Table) (ifNotExists : Bool) :
    Except DdlError String × Resolver :=
  let (parts, r) := createTableParts d r t ifNotExists
  (parts.map ("\n".intercalate ·), r)

def dropTable (t : Table) (ifExists : Bool) : String :=
  "DROP TABLE " ++ (if ifExists then "IF EXISTS " else "") ++ t.qualified ++ ";"

def truncateTable (t : Table) : String :=
  "TRUNCATE TABLE " ++ t.qualified ++ ";"

def createSchema (name : String) : String :=
  "CREATE SCHEMA IF NOT EXISTS " ++ name ++ ";"

def dropSchema (name : String) : String :=
  "DROP SCHEMA IF EXISTS " ++ name ++ ";"

/-- A clause that is left out when it has no value. -/
def optionalClause (keyword : String) (value : Option String) : List String :=
  (value.map fun v => keyword ++ " " ++ v).toList

/-- A bound, which is always told. -/
def boundClause (keyword : String) : Option Int → String
  | some n => keyword ++ " " ++ Number.signedDecimal n
  | none => "NO " ++ keyword

def cycleClause : Option Bool → List String
  | some true => ["CYCLE"]
  | some false => ["NO CYCLE"]
  | none => []

def sequenceClauses (d : Dialect) (s : Sequence) : List String :=
  ("CREATE SEQUENCE " ++ s.name.qualified d.defaultSchema)
    :: optionalClause "AS" (nonBlank s.dbType)
    ++ optionalClause "START WITH" (s.start.map Number.signedDecimal)
    ++ optionalClause "INCREMENT BY" (s.increment.map Number.signedDecimal)
    ++ [boundClause "MINVALUE" s.minValue, boundClause "MAXVALUE" s.maxValue]
    ++ cycleClause s.cycle

def createSequence (d : Dialect) (s : Sequence) : String :=
  " ".intercalate (sequenceClauses d s) ++ ";"

def dropSequence (d : Dialect) (name : SequenceName) : String :=
  "DROP SEQUENCE IF EXISTS " ++ name.qualified d.defaultSchema ++ ";"

end SchemaDdl.Statement
