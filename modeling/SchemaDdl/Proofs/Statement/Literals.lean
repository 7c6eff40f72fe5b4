import SchemaDdl.Dialect.Builtin
import SchemaDdl.Statement

/-!
# Literals in statements

A reader of SQL takes a literal up to the first quote that is not doubled.  It gets back the text
that was quoted, however many quotes that holds and wherever they stand, as long as the literal is
not followed by another quote (`Text.scanLiteral_literal`).  What a built-in dialect writes behind
the literal of a default never starts with one, so no default reaches into the statement around it
(`Statement.scanLiteral_defaults`).
-/

namespace SchemaDdl

/-! ## Reading a literal -/

namespace Text

/-- Reads the inside of a literal up to the quote that closes it, and gives the text with what is
left.  A doubled quote stands for one, and the first quote that is not doubled closes. -/
def scanInside : List Char → Option (List Char × List Char)
  | [] => none
  | '\'' :: '\'' :: rest => (scanInside rest).map fun (text, left) => ('\'' :: text, left)
  | c :: rest =>
    if c = '\'' then some ([], rest)
    else (scanInside rest).map fun (text, left) => (c :: text, left)

/-- Reads a literal from its opening quote. -/
def scanLiteral : List Char → Option (List Char × List Char)
  | [] => none
  | c :: rest => if c = '\'' then scanInside rest else none

theorem scanInside_doubleQuotes (text : List Char) {left : List Char}
    (h : left.head? ≠ some '\'') :
    scanInside (doubleQuotes text ++ '\'' :: left) = some (text, left) := by
  induction text with
  | nil =>
    -- the closing quote is taken for half of a doubled one only where another quote follows
    rw [doubleQuotes, List.nil_append, scanInside, if_pos rfl]
    rintro rest - rfl
    exact h rfl
  | cons c rest ih =>
    rw [doubleQuotes]
    by_cases hc : c = '\''
    · rw [if_pos hc, List.cons_append, List.cons_append, scanInside, ih, hc]
      rfl
    · rw [if_neg hc, List.cons_append, scanInside, if_neg hc, ih]
      · rfl
      · exact fun _ hquote => absurd hquote hc

theorem scanLiteral_literal (v : String) {left : List Char} (h : left.head? ≠ some '\'') :
    scanLiteral ((literal v).toList ++ left) = some (v.toList, left) := by
  rw [literal, String.toList_ofList, List.cons_append, List.append_assoc, scanLiteral, if_pos rfl]
  exact scanInside_doubleQuotes v.toList h

theorem literal_injective : Function.Injective literal := by
  intro v w hvw
  have hv : scanLiteral ((literal v).toList ++ []) = some (v.toList, []) :=
    scanLiteral_literal v (by simp)
  have hw : scanLiteral ((literal w).toList ++ []) = some (w.toList, []) :=
    scanLiteral_literal w (by simp)
  rw [hvw, hw] at hv
  exact String.toList_inj.1 (Prod.mk.inj (Option.some.inj hv)).1.symm

/-- A quote as a text. -/
example : literal "'" = "''''" := by
  decide

end Text

/-! ## Defaults -/

namespace Builtin

/-- What the statement of a default holds in front of the literal. -/
def beforeDefault (b : Builtin) (t : Table) (column : String) : String :=
  match b with
  | mssql => "ALTER TABLE " ++ t.qualified ++ " ADD DEFAULT "
  | postgres => "ALTER TABLE " ++ t.qualified ++ " ALTER COLUMN " ++ column ++ " SET DEFAULT "

/-- What the statement of a default holds behind the literal. -/
def afterDefault (b : Builtin) (column : String) : String :=
  match b with
  | mssql => " FOR " ++ column ++ ";"
  | postgres => ";"

theorem defaultValueSql_eq (b : Builtin) (t : Table) (column literal : String) :
    b.dialect.defaultValueSql t column literal
      = b.beforeDefault t column ++ literal ++ b.afterDefault column := by
  cases b with
  | mssql =>
    have hassoc : ∀ front : String, front ++ literal ++ " FOR " ++ column ++ ";"
        = front ++ literal ++ (" FOR " ++ column ++ ";") := by
      intro front
      simp only [String.append_assoc]
    exact hassoc _
  | postgres => rfl

/-- Whatever follows the statement, its literal is not followed by a quote. -/
theorem head?_afterDefault (b : Builtin) (column : String) (more : List Char) :
    ((b.afterDefault column).toList ++ more).head? ≠ some '\'' := by
  cases b with
  | mssql => simp [afterDefault, String.toList_append]
  | postgres => simp [afterDefault]

end Builtin

namespace Statement

open Text (isBlank nonBlank literal scanLiteral)

theorem mem_defaults {d : Dialect} {t : Table} {c : Column} (hc : c ∈ t.columns) {v : String}
    (hv : c.defaultValue = some v) (hblank : isBlank v = false) :
    d.defaultValueSql t c.name (literal v) ∈ defaults d t := by
  have hliteral : c.defaultLiteral = some v := Text.nonBlank_eq_some.2 ⟨hv, hblank⟩
  refine List.mem_filterMap.2 ⟨c, hc, ?_⟩
  rw [hliteral]
  rfl

theorem defaults_infix {d : Dialect} {r r' : Resolver} {t : Table} {ifNotExists : Bool}
    {parts : List String} (h : createTableParts d r t ifNotExists = (.ok parts, r')) :
    defaults d t <:+: parts := by
  rw [createTableParts] at h
  cases hlines : columnLines d t.columns with
  | error e =>
    rw [hlines] at h
    cases h
  | ok lines =>
    rw [hlines] at h
    cases h
    exact (List.infix_append _ _ _).trans (List.prefix_append _ _).isInfix

/-- A default that is not blank has its statement in every block of the table.  Reading on from the
opening quote of the literal, whatever follows the statement, gives the default as it is and leaves
what the dialect writes behind the literal.  Different texts have different literals. -/
theorem scanLiteral_defaults (b : Builtin) (t : Table) :
    (∀ c ∈ t.columns, ∀ v, c.defaultValue = some v → isBlank v = false →
      ∃ s ∈ defaults b.dialect t,
        s = b.beforeDefault t c.name ++ literal v ++ b.afterDefault c.name ∧
        ∀ more, scanLiteral ((s.toList ++ more).drop (b.beforeDefault t c.name).length)
          = some (v.toList, (b.afterDefault c.name).toList ++ more)) ∧
    (∀ r r' ifNotExists parts, createTableParts b.dialect r t ifNotExists = (.ok parts, r') →
      defaults b.dialect t <:+: parts) ∧
    Function.Injective literal := by
  refine ⟨fun c hc v hv hblank => ?_, fun r r' ifNotExists parts => defaults_infix,
    Text.literal_injective⟩
  have hmem := mem_defaults (d := b.dialect) hc hv hblank
  rw [b.defaultValueSql_eq] at hmem
  refine ⟨_, hmem, rfl, fun more => ?_⟩
  rw [String.toList_append, String.toList_append, List.append_assoc, List.append_assoc,
    List.drop_left' String.length_toList]
  exact Text.scanLiteral_literal v (b.head?_afterDefault c.name more)

end Statement

/-! ## A quote as a default -/

namespace Punctuation

def mark : Column :=
  Column.ofMember "mark" (({ ident := "mark", type := .scalar .string } : Member).defaultValue "'")

def table : Table where
  model := ⟨"Punctuation"⟩
  name := "punctuation"
  schema := "dbo"
  columns := [mark]

theorem scanLiteral_defaults_mark :
    mark ∈ table.columns ∧ mark.defaultValue = some "'" ∧ Text.isBlank "'" = false ∧
      ∃ s ∈ Statement.defaults Builtin.mssql.dialect table,
        s = "ALTER TABLE dbo.punctuation ADD DEFAULT '''' FOR mark;" ∧
        ∀ more, Text.scanLiteral ((s.toList ++ more).drop 40)
          = some (['\''], " FOR mark;".toList ++ more) := by
  have hmark : mark ∈ table.columns := List.mem_singleton.2 rfl
  have hblank : Text.isBlank "'" = false := by decide
  obtain ⟨s, hs, htext, hread⟩ :=
    (Statement.scanLiteral_defaults .mssql table).1 mark hmark "'" rfl hblank
  exact ⟨hmark, rfl, hblank, s, hs, htext, hread⟩

end Punctuation

end SchemaDdl
