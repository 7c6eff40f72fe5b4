import SchemaDdl.Proofs.Request.Faces
import SchemaDdl.Proofs.SchemaFile.Application

/-!
# Files whose models have the same faces

On a new resolver models with identities of their own are claimed without fail, and are then held
as they are (`SchemaFile.exists_claimAll_new_of_nodup`).  If two lists of them have the same faces,
the two resolvers match, a script finds its models in both lists or in neither, and queues with the
same faces over them build to the same (`SchemaFile.build_eq_of_face`).
-/

namespace SchemaDdl

namespace SchemaFile

open Resolver (Gains Matches)

variable {d : Dialect} {catalog : Catalog} {r r' : Resolver} {models models' : List Model}

/-! ## Claims on a new resolver -/

/-- Models with identities of their own are claimed as they are, and nothing else is held. -/
theorem exists_claimAll_new_of_nodup (catalog : Catalog) (hnodup : (models.map Model.id).Nodup) :
    ∃ r, claimAll (.new catalog) models = (.ok models, r) ∧
      (Resolver.new catalog).Gains models r := by
  rcases claimAll_cases (r := .new catalog) hnodup with
    ⟨-, held, r, hclaim, hgains, hheld⟩ | ⟨_, _, _, _, -, -, ⟨held, hget, -⟩, -⟩
  · have hself : held = models.map id :=
      eq_map_of_forall₂ hheld fun m hm _ h => h.eq_of_gains hgains hnodup hm
    rw [hself, List.map_id] at hclaim
    exact ⟨r, hclaim, hgains⟩
  · cases hget

theorem matches_of_gains (h : (Resolver.new catalog).Gains models r)
    (h' : (Resolver.new catalog).Gains models' r')
    (hmodels : models.map (Model.face d) = models'.map (Model.face d)) : Matches d r r' := by
  have hfind : ∀ (ms : List Model) (id : ModelId),
      (ms.find? fun m => m.id = id).map (Model.face d)
        = (ms.map (Model.face d)).find? fun f => f.id = id := by
    intro ms id
    rw [List.find?_map]
    rfl
  refine ⟨h.catalog.trans h'.catalog.symm, h.columns.trans h'.columns.symm, fun id => ?_,
    fun id => ?_⟩
  · rw [h.tables, h'.tables]
  · rw [get?_of_gains h, get?_of_gains h', hfind, hfind, hmodels]

/-! ## Scripts -/

/-- A name finds models with the same face, or none in either list. -/
theorem modelNamed?_face (hmodels : models.map (Model.face d) = models'.map (Model.face d))
    (name : String) :
    (modelNamed? models name).map (Model.face d)
      = (modelNamed? models' name).map (Model.face d) := by
  have hfind : ∀ ms : List Model, (modelNamed? ms name).map (Model.face d)
      = (ms.map (Model.face d)).find? fun f => f.ident = name := by
    intro ms
    rw [List.find?_map]
    rfl
  rw [hfind, hfind, hmodels]

theorem findModel_face (hmodels : models.map (Model.face d) = models'.map (Model.face d))
    (name : String) :
    (findModel models name).map (Model.face d) = (findModel models' name).map (Model.face d) := by
  have hfind : ∀ ms : List Model, (findModel ms name).map (Model.face d)
      = ((modelNamed? ms name).map (Model.face d)).elim
          (.error (.schema (.unknownModel name))) .ok := by
    intro ms
    rw [findModel]
    cases modelNamed? ms name <;> rfl
  rw [hfind, hfind, modelNamed?_face hmodels]

theorem request_face (hmodels : models.map (Model.face d) = models'.map (Model.face d))
    (op : Operation) :
    (request models op).map (Request.face d) = (request models' op).map (Request.face d) := by
  cases op with
  | createTable name flag =>
    have hread : ∀ x : Except DdlError Model, (x.map (Request.createTable · flag)).map
        (Request.face d) = (x.map (Model.face d)).map (.createTable · flag) :=
      map_map_eq_of_forall fun _ => rfl
    rw [request, request, hread, hread, findModel_face hmodels]
  | dropTable name flag =>
    have hread : ∀ x : Except DdlError Model, (x.map (Request.dropTable · flag)).map
        (Request.face d) = (x.map (Model.face d)).map (.dropTable · flag) :=
      map_map_eq_of_forall fun _ => rfl
    rw [request, request, hread, hread, findModel_face hmodels]
  | truncateTable name =>
    have hread : ∀ x : Except DdlError Model, (x.map Request.truncateTable).map (Request.face d)
        = (x.map (Model.face d)).map .truncateTable := map_map_eq_of_forall fun _ => rfl
    rw [request, request, hread, hread, findModel_face hmodels]
  | createSchema | dropSchema | createSequence | dropSequence | sql => rfl

theorem requests_cons (models : List Model) (op : Operation) (rest : List Operation) :
    requests models (op :: rest)
      = (request models op).bind fun q => (requests models rest).map (q :: ·) := by
  rw [requests_eq_mapM, mapM_cons_eq, ← requests_eq_mapM]

/-- Scripts whose operations stand for requests with the same faces queue the same faces, or fail
alike. -/
theorem requests_face {script script' : List Operation}
    (h : List.Forall₂ (fun op op' => (request models op).map (Request.face d)
      = (request models' op').map (Request.face d)) script script') :
    (requests models script).map (List.map (Request.face d))
      = (requests models' script').map (List.map (Request.face d)) := by
  induction h with
  | nil => rfl
  | cons hhead _ ih => rw [requests_cons, requests_cons, map_bind_cons, map_bind_cons, hhead, ih]

/-- Declarations with the same names have tables with the same faces created. -/
theorem creates_face (hmodels : models.map (Model.face d) = models'.map (Model.face d))
    {decls decls' : List ModelDecl}
    (hnames : decls.map ModelDecl.name = decls'.map ModelDecl.name) :
    (creates models decls).map (Request.face d)
      = (creates models' decls').map (Request.face d) := by
  induction decls generalizing decls' with
  | nil =>
    obtain rfl := List.map_eq_nil_iff.1 hnames.symm
    rfl
  | cons decl rest ih =>
    obtain ⟨decl', rest', rfl, hname, hrest⟩ := List.map_eq_cons_iff.1 hnames.symm
    have hhead := modelNamed?_face hmodels decl.name
    rw [creates, creates, hname]
    cases hfound : modelNamed? models decl.name with
    | none =>
      rw [hfound] at hhead
      rw [Option.map_eq_none_iff.1 hhead.symm]
      exact ih hrest.symm
    | some m =>
      rw [hfound] at hhead
      obtain ⟨m', hfound', hface⟩ := Option.map_eq_some_iff.1 hhead.symm
      rw [hfound']
      have hcreate : (Request.createTable m false).face d
          = (Request.createTable m' false).face d :=
        congrArg (Request.Face.createTable · false) hface.symm
      rw [List.map_cons, List.map_cons, hcreate, ih hrest.symm]

/-! ## Builds -/

theorem held_of_gains (hnodup : (models.map Model.id).Nodup)
    (h : (Resolver.new catalog).Gains models r) {queue : List Request}
    (hover : ∀ q ∈ queue, q.Over (· ∈ models)) : ∀ q ∈ queue, q.Held r := by
  intro q hq m hm
  rw [get?_of_gains h]
  exact find?_id_of_mem hnodup (hover q hq m hm)

/-- Models with the same faces, claimed on new resolvers: queues over them that have the same
faces build to the same text, or fail with the same error. -/
theorem build_eq_of_face (b : Builtin) (hnodup : (models.map Model.id).Nodup)
    (hmodels : models.map (Model.face b.dialect) = models'.map (Model.face b.dialect))
    (h : (Resolver.new catalog).Gains models r) (h' : (Resolver.new catalog).Gains models' r')
    {queue queue' : List Request} (hover : ∀ q ∈ queue, q.Over (· ∈ models))
    (hover' : ∀ q ∈ queue', q.Over (· ∈ models'))
    (hqueue : queue.map (Request.face b.dialect) = queue'.map (Request.face b.dialect)) :
    (Builder.build { dialect := b.dialect, queue } r).1
      = (Builder.build { dialect := b.dialect, queue := queue' } r').1 := by
  have hids : models.map Model.id = models'.map Model.id := by
    have hmap := congrArg (List.map Model.Face.id) hmodels
    rwa [List.map_map, List.map_map] at hmap
  have hnodup' : (models'.map Model.id).Nodup := hids ▸ hnodup
  exact Request.renderAll_eq_of_face b.byFace (matches_of_gains h h' hmodels)
    (held_of_gains hnodup h hover) (held_of_gains hnodup' h' hover') hqueue

end SchemaFile
end SchemaDdl
