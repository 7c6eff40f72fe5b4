import SchemaDdl.Proofs.Builder.Description

/-!
# What the built-in dialects do not share

Claims, references and the order of columns do not look at the dialect, so two builds of a queue
part only at a column that one dialect has a type for and the other has not.  SQL Server maps every
scalar; PostgreSQL maps every scalar but XML, and its serial types replace types that it maps anyway
(`Column.unmappable_postgres_iff`).  Hence SQL Server builds whatever PostgreSQL builds, and a queue
that only SQL Server builds has a column that is stored as XML
(`Builder.build_postgres_fails_at_xml`).
-/

namespace SchemaDdl

/-! ## Types that are mapped -/

namespace Dialect

theorem isSome_mapType_mssql_scalar (s : Scalar) : (mssql.mapType (.scalar s)).isSome = true := by
  cases s <;> rfl

theorem mapType_mssql_custom (name : String) : mssql.mapType (.custom name) = none := rfl

theorem mapType_postgres_scalar_eq_none_iff {s : Scalar} :
    postgres.mapType (.scalar s) = none ↔ s = .xml := by
  cases s <;> decide

theorem mapType_postgres_custom (name : String) : postgres.mapType (.custom name) = none := rfl

end Dialect

/-! ## Columns that are stored as XML -/

/-- No type is written on the column but blanks, and it is looked up as XML. -/
structure Column.StoresXml (c : Column) : Prop where
  unwritten : ∀ written, c.typeName = some written → Text.isBlank written = true
  key : c.type.lookupKey = .scalar .xml

/-- What PostgreSQL has no type for and SQL Server has is XML. -/
theorem Column.unmappable_postgres_iff {c : Column} :
    c.Unmappable .postgres ↔ c.Unmappable .mssql ∨ c.StoresXml := by
  have hkey := c.type.lookupKey_cases
  constructor
  · intro h
    have hunmapped := h.unmapped
    rcases hkey with ⟨s, hs⟩ | ⟨name, hname⟩
    · rw [hs, Dialect.mapType_postgres_scalar_eq_none_iff] at hunmapped
      rw [hunmapped] at hs
      exact .inr ⟨h.unwritten, hs⟩
    · refine .inl ⟨h.unwritten, fun _ _ => rfl, ?_⟩
      rw [hname, Dialect.mapType_mssql_custom]
  · rintro (h | h)
    · have hunmapped := h.unmapped
      rcases hkey with ⟨s, hs⟩ | ⟨name, hname⟩
      · have hmapped := Dialect.isSome_mapType_mssql_scalar s
        rw [← hs, hunmapped] at hmapped
        cases hmapped
      · refine ⟨h.unwritten, fun _ _ => ?_, ?_⟩
        · rw [hname]
          rfl
        · rw [hname, Dialect.mapType_postgres_custom]
    · refine ⟨h.unwritten, fun _ _ => ?_, ?_⟩
      · rw [h.key]
        rfl
      · rw [h.key, Dialect.mapType_postgres_scalar_eq_none_iff]

namespace Request

variable {request : Request} {queue before after : List Request} {catalog : Catalog}
  {models : Cache ModelId Model} {d : Dialect}

/-- The request is for a table to create, and a column of the table is stored as XML. -/
def StoresXml (request : Request) : Prop :=
  ∃ m, request.created? = some m ∧ ∃ c ∈ m.declaredColumns, c.StoresXml

theorem offends_postgres_iff :
    request.Offends .postgres models ↔ request.Offends .mssql models ∨ request.StoresXml := by
  unfold Offends StoresXml
  simp only [Column.unmappable_postgres_iff, and_or_left, exists_or, or_assoc]

/-- The walks of both dialects hold the same definitions, so they part at such a request only. -/
theorem clean_postgres_iff :
    Clean .postgres catalog models queue ↔
      Clean .mssql catalog models queue ∧ ∀ request ∈ queue, ¬ request.StoresXml := by
  induction queue generalizing models with
  | nil => simp [Clean]
  | cons request rest ih =>
    rw [Clean, Clean, ih, offends_postgres_iff, not_or, List.forall_mem_cons]
    exact and_and_and_comm

/-- No request of a clean queue offends at its turn. -/
theorem Clean.not_offends (h : Clean d catalog models (before ++ request :: after)) :
    ¬ request.Offends d (before.foldl (registers catalog) models) := by
  induction before generalizing models with
  | nil => exact h.1
  | cons first rest ih => exact ih h.2

/-- A request that offends under PostgreSQL only fails at a column that is stored as XML. -/
theorem Fault.exists_storesXml {r : Resolver} {e : DdlError} (h : request.Fault .postgres r e)
    (hclean : ¬ request.Offends .mssql r.models) :
    ∃ c : Column, c.StoresXml ∧ e = .unsupportedType c.type c.name := by
  cases h with
  | redefined _ hconflict => exact absurd (.inl hconflict) hclean
  | @unsupported m c hcreated _ hfirst =>
    obtain ⟨before, after, hsplit, -, hunmappable⟩ := hfirst
    rcases Column.unmappable_postgres_iff.1 hunmappable with hmssql | hxml
    · have hmem : c ∈ (Column.extract r m).1 := by
        rw [hsplit]
        simp
      have hdeclared := (Column.exists_unmappable_extract_iff r m).1 ⟨c, hmem, hmssql⟩
      exact absurd (.inr ⟨m, hcreated, hdeclared⟩) hclean
    · exact ⟨c, hxml, rfl⟩

end Request

/-! ## Builds -/

namespace Builder

variable {b : Builder} {r : Resolver} {e : DdlError}

theorem exists_build_error_iff :
    (∃ e, (b.build r).1 = .error e) ↔ ¬ ∃ text, (b.build r).1 = .ok text := by
  cases (b.build r).1 <;> simp

/-- What PostgreSQL builds is what SQL Server builds without a column that is stored as XML. -/
theorem exists_build_postgres_iff :
    (∃ text, ((b.withDialect .postgres).build r).1 = .ok text) ↔
      (∃ text, ((b.withDialect .mssql).build r).1 = .ok text) ∧
        ∀ request ∈ b.queue, ¬ request.StoresXml := by
  rw [exists_build_iff, exists_build_iff]
  exact Request.clean_postgres_iff

/-- Where SQL Server builds a queue, PostgreSQL can fail only at a column that is stored as XML. -/
theorem exists_storesXml_of_build (hok : ∃ text, ((b.withDialect .mssql).build r).1 = .ok text)
    (h : ((b.withDialect .postgres).build r).1 = .error e) :
    ∃ c : Column, c.StoresXml ∧ e = .unsupportedType c.type c.name := by
  obtain ⟨before, request, after, blocks, r₁, hqueue, hblocks, hrender⟩ :=
    Request.renderAll_error_iff.1 (show (b.withDialect .postgres).build r = (.error e, _) from
      Prod.ext h rfl)
  have hclean : Request.Clean .mssql r.catalog r.models (before ++ request :: after) := by
    rw [← hqueue]
    exact exists_build_iff.1 hok
  have hturn : ¬ request.Offends .mssql r₁.models := by
    rw [hblocks.models]
    exact hclean.not_offends
  refine Request.Fault.exists_storesXml (Request.render_eq_error_iff.1 ?_) hturn
  exact congrArg Prod.fst hrender

/-- SQL Server supports what PostgreSQL does, and they differ exactly by XML, whatever is queued and
whatever the resolver holds.  A queue that PostgreSQL builds SQL Server builds; one that SQL Server
builds fails under PostgreSQL just when it creates a table with a column that is stored as XML, and
then as a type that is not supported. -/
theorem build_postgres_fails_at_xml (b : Builder) (r : Resolver) :
    ((∃ text, ((b.withDialect .postgres).build r).1 = .ok text) →
      ∃ text, ((b.withDialect .mssql).build r).1 = .ok text) ∧
    ((∃ text, ((b.withDialect .mssql).build r).1 = .ok text) →
      ((∃ e, ((b.withDialect .postgres).build r).1 = .error e) ↔
        ∃ request ∈ b.queue, request.StoresXml) ∧
      ∀ e, ((b.withDialect .postgres).build r).1 = .error e →
        ∃ c : Column, c.StoresXml ∧ e = .unsupportedType c.type c.name) := by
  refine ⟨fun h => (exists_build_postgres_iff.1 h).1, fun h => ⟨?_, fun e => ?_⟩⟩
  · rw [exists_build_error_iff, exists_build_postgres_iff, and_iff_right h]
    simp
  · exact exists_storesXml_of_build h

/-- A column of optional XML. -/
example :
    let note : Member := { ident := "note", type := .nullable (.scalar .xml) }
    let b := new.push (.createTable { Model.named "Memo" with members := [note] } false)
    let r := Resolver.new fun id => { id, ident := id.text }
    ((b.withDialect .mssql).build r).1 = .ok "CREATE TABLE dbo.Memo (\n    note xml NULL\n);\n" ∧
      ((b.withDialect .postgres).build r).1
        = .error (.unsupportedType (.nullable (.scalar .xml)) "note") := by
  decide +kernel

end Builder

end SchemaDdl
