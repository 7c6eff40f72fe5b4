import SchemaDdl.Dialect.Basic
import SchemaDdl.Json

/-!
# Reports

What the command line shows of tables and dialects, as aligned text or as JSON.
-/

namespace SchemaDdl

/-- Fills a text up with blanks on the right to a width in characters. -/
def padRight (width : Nat) (s : String) : String :=
  s ++ String.ofList (List.replicate (width - s.length) ' ')

/-- Fills a text up with blanks on the left to a width in characters. -/
def padLeft (width : Nat) (s : String) : String :=
  String.ofList (List.replicate (width - s.length) ' ') ++ s

/-! ## JSON -/

/-- An optional value; nothing is null. -/
def Json.optional {α : Type} (f : α → Json) (value : Option α) : Json :=
  (value.map f).getD .null

def ForeignKey.toJson (k : ForeignKey) : Json :=
  .object [("model", .text k.model.id.text), ("member", .text k.member)]

def Column.toJson (c : Column) : Json :=
  .object
    [("name", .text c.name),
     ("member", .text c.member),
     ("field_type", .text c.type.display),
     ("order", .optional (fun n => .number n) c.order),
     ("type_name", .optional .text c.typeName),
     ("primary_key", .bool c.primaryKey),
     ("auto_increment", .bool c.autoIncrement),
     ("foreign_key", .optional ForeignKey.toJson c.foreignKey),
     ("index", .bool c.index),
     ("index_unique", .bool c.indexUnique),
     ("required", .bool c.required),
     ("unique", .bool c.unique),
     ("max_length", .optional (fun n => .number n) c.maxLength),
     ("default_value", .optional .text c.defaultValue),
     ("computed", .optional .text c.computed)]

def Table.toJson (t : Table) : Json :=
  .object
    [("model", .text t.model.text),
     ("name", .text t.name),
     ("schema", .text t.schema),
     ("columns", .array (t.columns.map Column.toJson))]

/-! ## Text -/

def Column.marks (c : Column) : List String :=
  (if c.primaryKey then ["key"] else [])
    ++ (if c.autoIncrement then ["auto"] else [])
    ++ (if c.required then ["required"] else [])
    ++ (if c.unique then ["unique"] else [])
    ++ (if c.index then ["index"] else [])
    ++ (if c.foreignKey.isSome then ["fk"] else [])

def Column.reportLine (position : Nat) (c : Column) : String :=
  let order := (c.order.map Number.decimal).getD "-"
  "  " ++ padLeft 2 (Number.decimal position) ++ "  " ++ padRight 24 c.name ++ " "
    ++ padRight 20 c.type.display ++ " order=" ++ padRight 3 order ++ " " ++ " ".intercalate c.marks

def Column.reportLines (position : Nat) : List Column → List String
  | [] => []
  | c :: rest => c.reportLine position :: reportLines (position + 1) rest

/-- The lines about a table, after an empty one. -/
def Table.reportLines (t : Table) : List String :=
  "" :: t.qualified :: Column.reportLines 0 t.columns

/-- The lines about tables under the dialect that they were described for. -/
def Dialect.reportTables (d : Dialect) (tables : List Table) : List String :=
  ("Dialect: " ++ d.name) :: tables.flatMap Table.reportLines

/-- The lines about the types of a dialect. -/
def Dialect.reportTypes (d : Dialect) : List String :=
  ("Type mapping for " ++ d.name ++ " (default schema " ++ d.defaultSchema ++ ")") :: ""
    :: d.types.map fun (type, sqlType) =>
      "  " ++ padRight 16 type.display ++ " " ++ sqlType.sized none d.maxSpelling

end SchemaDdl
