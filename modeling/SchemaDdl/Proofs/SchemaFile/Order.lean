import SchemaDdl.Proofs.SchemaFile.Blocks

/-!
# Schema files in any order

The text of a file on an empty builder is one block for each of its operations, and the block of
an operation is told by the operation, the dialect and the models that the file declares, whatever
their order (`Operation.block`, `SchemaFile.block_congr`).  So the order of the declarations is
free, the order of the script is that of the blocks, and nothing but a column without a type can
fail (`SchemaFile.orderFree_of_apply`).
-/

namespace SchemaDdl

open Resolver (Settled Saturated)

/-! ## Blocks of operations -/

/-- The block of an operation over declared models. -/
def Operation.block (d : Dialect) (models : List Model) (op : Operation) : Except DdlError String :=
  match SchemaFile.request models op with
  | .error e => .error e
  | .ok q => q.declaredBlock (.ofModels models) d

namespace SchemaFile

variable {f f' : SchemaFile} {models models' : List Model} {queue : List Request}
  {catalog : Catalog} {r r' : Resolver} {b b' : Builder} {d : Dialect}

/-- The operations of a file: its script or, without one, a table to create for each model. -/
def operations (f : SchemaFile) : List Operation :=
  if f.script.isEmpty then f.models.map fun d => .createTable d.name false else f.script

theorem findModel_of_mem (hident : ∀ a ∈ models, ∀ b ∈ models, a.ident = b.ident → a = b)
    {m : Model} (hm : m ∈ models) : findModel models m.ident = .ok m := by
  rw [findModel, modelNamed?, find?_key_of_mem Model.ident hident hm]

theorem findModel_of_forall_ne {name : String} (h : ∀ m ∈ models, m.ident ≠ name) :
    findModel models name = .error (.schema (.unknownModel name)) := by
  have hnone : (models.find? fun x => x.ident = name) = none :=
    List.find?_eq_none.2 fun x hx => by simpa using h x hx
  rw [findModel, modelNamed?, hnone]

/-- A name finds the same model in whatever order the models are declared. -/
theorem findModel_congr (hident : ∀ a ∈ models, ∀ b ∈ models, a.ident = b.ident → a = b)
    (h : ∀ m, m ∈ models' ↔ m ∈ models) (name : String) :
    findModel models' name = findModel models name := by
  have hident' : ∀ a ∈ models', ∀ b ∈ models', a.ident = b.ident → a = b := by
    simpa only [h] using hident
  by_cases hname : ∃ m ∈ models, m.ident = name
  · obtain ⟨m, hm, rfl⟩ := hname
    rw [findModel_of_mem hident hm, findModel_of_mem hident' ((h m).2 hm)]
  · have hne : ∀ m ∈ models, m.ident ≠ name := fun m hm hmname => hname ⟨m, hm, hmname⟩
    rw [findModel_of_forall_ne hne, findModel_of_forall_ne fun m hm => hne m ((h m).1 hm)]

theorem request_congr (hident : ∀ a ∈ models, ∀ b ∈ models, a.ident = b.ident → a = b)
    (h : ∀ m, m ∈ models' ↔ m ∈ models) (op : Operation) :
    request models' op = request models op := by
  cases op <;> simp only [request, findModel_congr hident h]

/-- The block of an operation depends on which models are declared, not on their order. -/
theorem block_congr (hmodels : Coherent (· ∈ models))
    (hident : ∀ a ∈ models, ∀ b ∈ models, a.ident = b.ident → a = b)
    (h : ∀ m, m ∈ models' ↔ m ∈ models) (op : Operation) :
    op.block d models' = op.block d models := by
  rw [Operation.block, Operation.block, request_congr hident h, Catalog.ofModels_congr hmodels h]

theorem requests_eq_mapM (models : List Model) (script : List Operation) :
    requests models script = script.mapM (request models) := by
  induction script with
  | nil => rfl
  | cons op rest ih =>
    rw [requests, List.mapM_cons, ← ih]
    cases request models op with
    | error e => rfl
    | ok q => cases requests models rest <;> rfl

theorem exists_modelNamed? {name : String} (h : name ∈ models.map Model.ident) :
    ∃ m, modelNamed? models name = some m := by
  obtain ⟨m, hm, hident⟩ := List.mem_map.1 h
  exact Option.isSome_iff_exists.1 (List.find?_isSome.2 ⟨m, hm, by simpa using hident⟩)

/-- Where all declared names have models, no declaration is passed over: each has its table
created, as by an operation of a script. -/
theorem mapM_request_creates {decls : List ModelDecl}
    (h : ∀ d ∈ decls, d.name ∈ models.map Model.ident) :
    (decls.map fun d => Operation.createTable d.name false).mapM (request models)
      = .ok (creates models decls) := by
  induction decls with
  | nil => rfl
  | cons d rest ih =>
    obtain ⟨m, hfound⟩ := exists_modelNamed? (h d List.mem_cons_self)
    have hhead : request models (.createTable d.name false) = .ok (.createTable m false) := by
      rw [request, findModel, hfound]
      rfl
    have hcreates : creates models (d :: rest) = .createTable m false :: creates models rest := by
      rw [creates, hfound]
    rw [List.map_cons, mapM_cons_eq, ih fun x hx => h x (List.mem_cons_of_mem _ hx), hhead,
      hcreates]
    rfl

/-- A file queues one request for each of its operations; its models go by the declared names. -/
theorem queue_eq_mapM (hnames : models.map Model.ident = f.models.map ModelDecl.name) :
    f.queue models = f.operations.mapM (request models) := by
  rw [SchemaFile.queue, operations]
  cases f.script.isEmpty with
  | false => rw [if_neg (by simp), if_neg (by simp), requests_eq_mapM]
  | true =>
    have hknown : ∀ d ∈ f.models, d.name ∈ models.map Model.ident := by
      rw [hnames]
      exact fun d hd => List.mem_map_of_mem hd
    rw [if_pos rfl, if_pos rfl, mapM_request_creates hknown]

theorem queue_eq_ok_iff (h : f.toModels = .ok models) :
    f.queue models = .ok queue ↔
      List.Forall₂ (fun op q => request models op = .ok q) f.operations queue := by
  rw [queue_eq_mapM (toModels_eq_ok_iff.1 h).idents, mapM_eq_ok_iff]

/-! ## Applying a file -/

/-- Claiming models of a coherent family gives these models. -/
theorem claimAll_of_settled (hmodels : Coherent (· ∈ models))
    (hr : Settled catalog (· ∈ models) r) (rest : List Model) (hrest : ∀ m ∈ rest, m ∈ models) :
    (claimAll r rest).1 = .ok rest ∧ Settled catalog (· ∈ models) (claimAll r rest).2 := by
  refine ⟨?_, hr.grows hmodels (grows_claimAll hrest)⟩
  induction rest generalizing r with
  | nil => rfl
  | cons m rest ih =>
    have hm := hrest m List.mem_cons_self
    have hclaim : r.claim m = (.ok m, (r.claim m).2) := Prod.ext (hr.claim_fst hmodels hm) rfl
    have htail := ih (hr.grows hmodels (Resolver.grows_claim hm))
      fun x hx => hrest x (List.mem_cons_of_mem _ hx)
    rw [claimAll, hclaim]
    rcases hres : claimAll (r.claim m).2 rest with ⟨e | tail, r₁⟩ <;> rw [hres] at htail
    · cases htail
    · cases htail
      simp only [hres]

/-- Claiming all models on a new resolver leaves it with just these. -/
theorem exists_claimAll_new (catalog : Catalog) (hmodels : Coherent (· ∈ models)) :
    ∃ r, claimAll (.new catalog) models = (.ok models, r) ∧ Saturated catalog models r := by
  obtain ⟨hclaim, hsettled⟩ := claimAll_of_settled hmodels
    (Resolver.settled_new catalog _) models fun _ hm => hm
  refine ⟨_, Prod.ext hclaim rfl, hsettled, fun m hm => ?_⟩
  exact get?_of_claimAll (Resolver.keyed_new catalog) (Prod.ext hclaim rfl) hm

/-- Applying a file without repeated fields to a new resolver succeeds just when it gives models
and all operations are about these; then it adds one request for each operation. -/
theorem apply_eq_ok_iff (hfields : ∀ decl ∈ f.models, (decl.fields.map FieldDecl.name).Nodup) :
    f.apply b (.new catalog) = (.ok b', r') ↔
      ∃ models queue, f.toModels = .ok models ∧
        claimAll (.new catalog) models = (.ok models, r') ∧
        List.Forall₂ (fun op q => request models op = .ok q) f.operations queue ∧
        b' = { b with queue := b.queue ++ queue } := by
  rw [apply]
  cases hmodels : f.toModels with
  | error e => simp
  | ok models =>
    obtain ⟨r, hclaim, -⟩ := exists_claimAll_new catalog
      ((toModels_eq_ok_iff.1 hmodels).coherent hfields)
    simp only [hclaim]
    cases hqueue : f.queue models with
    | error e => simp [← queue_eq_ok_iff hmodels, hqueue]
    | ok queue =>
      simp only
      constructor
      · intro h
        cases h
        exact ⟨models, queue, rfl, hclaim, (queue_eq_ok_iff hmodels).1 hqueue, rfl⟩
      · rintro ⟨_, queue', hok, hclaim', hqueue', rfl⟩
        cases hok
        rw [← queue_eq_ok_iff hmodels, hqueue] at hqueue'
        cases hqueue'
        rw [hclaim] at hclaim'
        cases hclaim'
        rfl

/-- The blocks of operations are the declared blocks of their requests. -/
theorem mapM_block {ops : List Operation}
    (h : List.Forall₂ (fun op q => request models op = .ok q) ops queue) :
    ops.mapM (Operation.block d models)
      = queue.mapM (Request.declaredBlock (.ofModels models) d) := by
  induction h with
  | nil => rfl
  | @cons op q ops queue hop _ ih =>
    rw [List.mapM_cons, List.mapM_cons, ih, Operation.block, hop]

/-- What a builder that a file was applied to renders to, told by the operations of the file. -/
theorem build_fst_of_queue (h : f.toModels = .ok models)
    (hfields : ∀ decl ∈ f.models, (decl.fields.map FieldDecl.name).Nodup)
    (hr : Saturated catalog models r)
    (hqueue : List.Forall₂ (fun op q => request models op = .ok q) f.operations queue) :
    (Builder.build { dialect := d, queue } r).1
      = (f.operations.mapM (Operation.block d models)).map Request.script := by
  have hover : ∀ q ∈ queue, q.Over (· ∈ models) := by
    intro q hq m hm
    obtain ⟨op, -, hop⟩ := exists_left_of_forall₂ hqueue hq
    exact model?_of_request hop hm
  rw [mapM_block hqueue]
  have hdeclares := toModels_eq_ok_iff.1 h
  exact hr.renderAll_fst (hdeclares.coherent hfields) hdeclares.byName hover

/-! ## Other orders -/

theorem operations_perm (hmodels : f'.models.Perm f.models) (hscript : f'.script.Perm f.script) :
    f'.operations.Perm f.operations := by
  have hempty : f'.script.isEmpty = f.script.isEmpty := by
    rw [Bool.eq_iff_iff, List.isEmpty_iff, List.isEmpty_iff]
    exact ⟨fun h => List.nil_perm.1 (h ▸ hscript), fun h => List.perm_nil.1 (h ▸ hscript)⟩
  rw [operations, operations, hempty]
  split
  · exact hmodels.map _
  · exact hscript

theorem operations_of_script (hne : f.script ≠ []) (hscript : f'.script = f.script) :
    f'.operations = f.operations := by
  have hempty : f.script.isEmpty = false := by simpa using hne
  rw [operations, operations, hscript, hempty, if_neg (by simp), if_neg (by simp)]

/-- What a file that gives the models renders to on its own, in whatever order it lists its
parts. -/
structure OrderFree (catalog : Catalog) (d : Dialect) (f : SchemaFile) (models : List Model)
    (result : Except DdlError String) : Prop where
  /-- A text is one block for each operation, in script order. -/
  text : ∀ text, result = .ok text ↔ ∃ blocks,
    List.Forall₂ (fun op block => Operation.block d models op = .ok block) f.operations blocks ∧
      text = Request.script blocks
  failure : ∀ e, result = .error e → ∃ type column, e = .unsupportedType type column
  /-- The block of an operation depends on the models as a set. -/
  block : ∀ models' : List Model, (∀ m, m ∈ models' ↔ m ∈ models) →
    ∀ op, Operation.block d models' op = Operation.block d models op
  /-- A reference to a declared model names its table and column, wherever it is declared. -/
  reference : ∀ m ∈ models, ∀ key : ForeignKey, key.model.id = m.id →
    key.declared (.ofModels models)
      = { table := m.tableName, column := m.declaredName key.member }
  dangling : ∀ key : ForeignKey, (∀ m ∈ models, m.id ≠ key.model.id) →
    key.declared (.ofModels models) = key.asWritten
  /-- With its parts in another order the file applies too: a script renders to the same, and the
  blocks come in the order of the operations. -/
  permuted : ∀ f' : SchemaFile, f'.enums = f.enums → f'.models.Perm f.models →
    f'.script.Perm f.script →
      ∃ b r, f'.apply { dialect := d } (.new catalog) = (.ok b, r) ∧
        (f.script ≠ [] → f'.script = f.script → (b.build r).1 = result) ∧
        ∀ blocks,
          List.Forall₂ (fun op block => Operation.block d models op = .ok block) f.operations
            blocks →
          ∃ blocks', blocks'.Perm blocks ∧
            List.Forall₂ (fun op block => Operation.block d models op = .ok block) f'.operations
              blocks' ∧
            (b.build r).1 = .ok (Request.script blocks')

theorem map_script_eq_ok_iff {ops : List Operation} {text : String} :
    (ops.mapM (Operation.block d models)).map Request.script = .ok text ↔
      ∃ blocks, List.Forall₂ (fun op block => Operation.block d models op = .ok block) ops blocks ∧
        text = Request.script blocks := by
  simp only [← mapM_eq_ok_iff]
  cases ops.mapM (Operation.block d models) with
  | error e => simp [Except.map]
  | ok blocks => simp [Except.map, eq_comm]

/-- Operations about declared models fail at most for a column without a type. -/
theorem unsupported_of_map_script {ops : List Operation}
    (hqueue : List.Forall₂ (fun op q => request models op = .ok q) ops queue) {e : DdlError}
    (h : (ops.mapM (Operation.block d models)).map Request.script = .error e) :
    ∃ type column, e = .unsupportedType type column := by
  rw [mapM_block hqueue] at h
  cases hblocks : queue.mapM (Request.declaredBlock (.ofModels models) d) with
  | ok blocks =>
    rw [hblocks] at h
    cases h
  | error e' =>
    rw [hblocks] at h
    cases h
    obtain ⟨q, -, hfails⟩ := exists_of_mapM_eq_error hblocks
    exact Request.unsupported_of_declaredBlock hfails

/-- A file with the same parts in another order applies as well, and its text is made of the same
blocks. -/
theorem exists_apply_of_perm (catalog : Catalog) (hmodels : f.toModels = .ok models)
    (hfields : ∀ decl ∈ f.models, (decl.fields.map FieldDecl.name).Nodup)
    (hqueue : List.Forall₂ (fun op q => request models op = .ok q) f.operations queue)
    (henums : f'.enums = f.enums) (hdecls : f'.models.Perm f.models)
    (hscript : f'.script.Perm f.script) :
    ∃ b r, f'.apply { dialect := d } (.new catalog) = (.ok b, r) ∧
      (b.build r).1 = (f'.operations.mapM (Operation.block d models)).map Request.script := by
  have hdeclares := toModels_eq_ok_iff.1 hmodels
  have hcoherent := hdeclares.coherent hfields
  have hident := hdeclares.eq_of_ident_eq
  have hfields' : ∀ decl ∈ f'.models, (decl.fields.map FieldDecl.name).Nodup :=
    fun decl hdecl => hfields decl (hdecls.mem_iff.1 hdecl)
  obtain ⟨models', hmodels', hperm⟩ := toModels_perm hmodels henums hdecls
  obtain ⟨queue', hqueue', -⟩ :=
    List.perm_comp_forall₂ (operations_perm hdecls hscript) hqueue
  have hrequests : List.Forall₂ (fun op q => request models' op = .ok q) f'.operations queue' :=
    hqueue'.imp fun op q hop => by
      rwa [request_congr hident fun m => hperm.mem_iff]
  obtain ⟨r, hclaim, hr⟩ := exists_claimAll_new catalog
    ((toModels_eq_ok_iff.1 hmodels').coherent hfields')
  refine ⟨_, r,
    (apply_eq_ok_iff hfields').2 ⟨models', queue', hmodels', hclaim, hrequests, rfl⟩, ?_⟩
  -- the blocks over the models in their new order are those over the old one
  have hblocks : Operation.block d models' = Operation.block d models :=
    funext (block_congr hcoherent hident fun m => hperm.mem_iff)
  rw [← hblocks]
  exact build_fst_of_queue hmodels' hfields' hr hrequests

/-- A file whose declarations repeat no field, applied to an empty builder with a new resolver,
renders to what its operations and declared models tell, free of the order of its parts. -/
theorem orderFree_of_apply (catalog : Catalog) (d : Dialect) (f : SchemaFile)
    (hfields : ∀ decl ∈ f.models, (decl.fields.map FieldDecl.name).Nodup) {b : Builder}
    {r : Resolver} (happly : f.apply { dialect := d } (.new catalog) = (.ok b, r)) :
    ∃ models, f.toModels = .ok models ∧ f.OrderFree catalog d models (b.build r).1 := by
  obtain ⟨models, queue, hmodels, hclaim, hqueue, rfl⟩ := (apply_eq_ok_iff hfields).1 happly
  have hdeclares := toModels_eq_ok_iff.1 hmodels
  have hcoherent := hdeclares.coherent hfields
  have hident := hdeclares.eq_of_ident_eq
  obtain ⟨r₀, hclaim₀, hr⟩ := exists_claimAll_new catalog hcoherent
  rw [hclaim] at hclaim₀
  cases hclaim₀
  have hbuild : (Builder.build { dialect := d, queue := [] ++ queue } r).1
      = (f.operations.mapM (Operation.block d models)).map Request.script :=
    build_fst_of_queue hmodels hfields hr hqueue
  refine ⟨models, hmodels, ?_⟩
  rw [hbuild]
  refine ⟨fun text => map_script_eq_ok_iff, fun e => unsupported_of_map_script hqueue,
    fun models' h => block_congr hcoherent hident h,
    fun m hm key => ForeignKey.declared_of_mem hcoherent hm,
    fun key => ForeignKey.declared_of_forall_ne, fun f' henums hdecls hscript => ?_⟩
  obtain ⟨b, r', happly', hbuild'⟩ :=
    exists_apply_of_perm (d := d) catalog hmodels hfields hqueue henums hdecls hscript
  refine ⟨b, r', happly', fun hne hsame => ?_, fun blocks hblocks => ?_⟩
  · rw [hbuild', operations_of_script hne hsame]
  · obtain ⟨blocks', hblocks', hperm⟩ :=
      List.perm_comp_forall₂ (operations_perm hdecls hscript) hblocks
    exact ⟨blocks', hperm, hblocks',
      hbuild'.trans (map_script_eq_ok_iff.2 ⟨blocks', hblocks', rfl⟩)⟩

end SchemaFile

/-! ## References ahead and to nothing -/

namespace Delivery

/-- An order refers to a customer that is declared after it, and to a courier that is not. -/
def order : ModelDecl where
  name := "Order"
  table := some "orders"
  fields :=
    [{ name := "customer", type := "i32", foreignKey := some ("Customer", "id") },
     { name := "courier", type := "i32", foreignKey := some ("Courier", "id") }]

def customer : ModelDecl where
  name := "Customer"
  table := some "customers"
  fields := [{ name := "id", type := "i32", column := some "customer_id", key := true }]

def file : SchemaFile where
  models := [order, customer]
  script := [.dropTable "Order" true, .createTable "Order" false]

def models : List Model :=
  [{ Model.named "Order" with
      table := some { name := "orders" }
      members :=
        [({ ident := "customer", type := .scalar .i32 } : Member).references "Customer" "id",
         ({ ident := "courier", type := .scalar .i32 } : Member).references "Courier" "id"] },
   { Model.named "Customer" with
      table := some { name := "customers" }
      members := [(({ ident := "id", type := .scalar .i32 } : Member).column "customer_id").key] }]

theorem toModels_file : file.toModels = .ok models := by
  decide +kernel

theorem fields_distinct : ∀ decl ∈ file.models, (decl.fields.map FieldDecl.name).Nodup := by
  decide

theorem exists_apply : ∃ b r, file.apply { dialect := .mssql } (.new .ofId) = (.ok b, r) := by
  have hcoherent := (SchemaFile.toModels_eq_ok_iff.1 toModels_file).coherent fields_distinct
  obtain ⟨r, hclaim, -⟩ := SchemaFile.exists_claimAll_new .ofId hcoherent
  exact ⟨_, r, (SchemaFile.apply_eq_ok_iff fields_distinct).2
    ⟨models, _, toModels_file, hclaim, .cons rfl (.cons rfl .nil), rfl⟩⟩

/-- Only the order is created, and it refers to both. -/
theorem orderFree_delivery :
    (∀ decl ∈ file.models, (decl.fields.map FieldDecl.name).Nodup) ∧
      ∃ b r, file.apply { dialect := .mssql } (.new .ofId) = (.ok b, r) ∧
        ∃ models, file.toModels = .ok models ∧
          file.OrderFree .ofId .mssql models (b.build r).1 := by
  obtain ⟨b, r, happly⟩ := exists_apply
  exact ⟨fields_distinct, b, r, happly,
    SchemaFile.orderFree_of_apply .ofId .mssql file fields_distinct happly⟩

example :
    Operation.block .mssql models (.createTable "Order" false) = .ok
      ("CREATE TABLE dbo.orders (\n    customer int NULL,\n    courier int NULL\n);\n"
        ++ "ALTER TABLE dbo.orders ADD CONSTRAINT FK_orderscustomer_TO_customerscustomer_id "
        ++ "FOREIGN KEY (customer) REFERENCES dbo.customers (customer_id);\n"
        ++ "ALTER TABLE dbo.orders ADD CONSTRAINT FK_orderscourier_TO_Courierid "
        ++ "FOREIGN KEY (courier) REFERENCES dbo.Courier (id);") := by
  decide +kernel

end Delivery
end SchemaDdl
