import SchemaDdl.Proofs.SchemaFile.Application
import SchemaDdl.Proofs.Workspace.References

/-!
# One definition for each identity

The caches of a resolver only grow, so the first definition under an identity is held for the rest
of a run.  A claim accepts just the models that are equal to it, and so does every block that is
rendered.  Equality of definitions being an equivalence, all models that a run accepts under one
identity are equal, however far apart (`Workspace.first_definition_wins`).
-/

namespace SchemaDdl

/-! ## Claims -/

namespace Resolver

variable {r r' : Resolver} {m held : Model} {e : DdlError}

theorem claim_eq_ok_iff :
    r.claim m = (.ok held, r') ↔
      held = (r.models.get? m.id).getD m ∧ held.Same m ∧ r' = (r.register m).2 := by
  rw [claim_eq, register_fst]
  by_cases h : ((r.models.get? m.id).getD m).Same m
  · rw [if_pos h]
    constructor
    · intro heq
      cases heq
      exact ⟨rfl, h, rfl⟩
    · rintro ⟨rfl, -, rfl⟩
      rfl
  · rw [if_neg h]
    constructor
    · intro heq
      cases heq
    · rintro ⟨rfl, hsame, -⟩
      exact absurd hsame h

/-- A model can be claimed just when no other definition is held under its identity. -/
theorem exists_claim_ok_iff :
    (∃ held, (r.claim m).1 = .ok held) ↔
      ∀ held, r.models.get? m.id = some held → held.Same m := by
  constructor
  · rintro ⟨held, h⟩ other hget
    obtain ⟨rfl, hsame, -⟩ := claim_eq_ok_iff.1 (Prod.ext h rfl)
    rwa [hget, Option.getD_some] at hsame
  · intro h
    have hsame : ((r.models.get? m.id).getD m).Same m := by
      cases hget : r.models.get? m.id with
      | none => exact .refl m
      | some held => exact h held hget
    exact ⟨_, congrArg Prod.fst (claim_eq_ok_iff.2 ⟨rfl, hsame, rfl⟩)⟩

/-- Models that are held under one identity are equal. -/
theorem Holds.same {a b : Model} (ha : r.Holds a) (hb : r.Holds b) (hid : a.id = b.id) :
    a.Same b := by
  obtain ⟨x, hx, hxa⟩ := ha
  obtain ⟨y, hy, hyb⟩ := hb
  rw [hid, hy] at hx
  cases hx
  exact hxa.symm.trans hyb

end Resolver

/-! ## Models that are accepted -/

/-- The model of a block is held from the block on. -/
theorem Rendering.Kept.holds {s : Resolver} {x : Rendering} (h : x.Kept s) {m : Model}
    (hmodel : x.request.model? = some m) : s.Holds m := by
  rcases hclaim : x.before.claim m with ⟨e | held, r₁⟩
  · have hrender := h.render
    rw [Request.render_of_claim_error hmodel hclaim] at hrender
    cases hrender
  · have hrender := h.render
    rw [Request.render_of_claim_ok hmodel hclaim] at hrender
    have hblock := Request.extends_block x.dialect r₁ x.request
    rw [hrender] at hblock
    exact (Resolver.holds_of_claim hclaim).mono (hblock.trans h.keeps)

/-- The models that a file's claims accept in turn, up to the first that fails. -/
def SchemaFile.accepted (r : Resolver) : List Model → List Model
  | [] => []
  | m :: rest =>
    match r.claim m with
    | (.error _, _) => []
    | (.ok _, r) => m :: accepted r rest

theorem SchemaFile.holds_of_mem_accepted {r : Resolver} {models : List Model} {m : Model}
    (h : m ∈ accepted r models) : (claimAll r models).2.Holds m := by
  induction models generalizing r with
  | nil => cases h
  | cons x rest ih =>
    rw [accepted] at h
    rw [claimAll]
    rcases hclaim : r.claim x with ⟨e | held, r₁⟩ <;> rw [hclaim] at h
    · cases h
    · have hkept : (claimAll r₁ rest).2.Holds m := by
        rcases List.mem_cons.1 h with rfl | h
        · exact (Resolver.holds_of_claim hclaim).mono (extends_claimAll r₁ rest)
        · exact ih h
      rcases hrest : claimAll r₁ rest with ⟨e | tail, r₂⟩ <;> rw [hrest] at hkept
      all_goals
        simp only [hrest]
        exact hkept

/-- The models that a step claims, or renders a block about, with success. -/
def Step.accepted (w : Workspace) : Step → List Model
  | .claim m =>
    match (w.resolver.claim m).1 with
    | .ok _ => [m]
    | .error _ => []
  | .apply _ file =>
    match file.toModels with
    | .ok models => SchemaFile.accepted w.resolver models
    | .error _ => []
  | s => (s.renderings w).filterMap fun x => x.request.model?

namespace Workspace

variable {w : Workspace} {steps : List Step}

/-- All models that a run accepts. -/
def accepted (w : Workspace) : List Step → List Model
  | [] => []
  | s :: rest => s.accepted w ++ (w.step s).2.accepted rest

theorem resolver_claim (w : Workspace) (m : Model) :
    (w.step (.claim m)).2.resolver = (w.resolver.claim m).2 := by
  rw [step]
  rcases w.resolver.claim m with ⟨_ | _, _⟩ <;> rfl

theorem resolver_apply (w : Workspace) (name : String) (file : SchemaFile) :
    (w.step (.apply name file)).2.resolver = (file.apply (w.builder name) w.resolver).2 := by
  rw [step]
  rcases file.apply (w.builder name) w.resolver with ⟨_ | _, _⟩ <;> rfl

theorem holds_of_mem_accepted_step {s : Step} {m : Model} (h : m ∈ s.accepted w) :
    (w.step s).2.resolver.Holds m := by
  have hrendered : m ∈ (s.renderings w).filterMap (fun x => x.request.model?) →
      (w.step s).2.resolver.Holds m := by
    intro h
    obtain ⟨x, hx, hmodel⟩ := List.mem_filterMap.1 h
    exact (kept_of_mem_step hx).holds hmodel
  cases s with
  | claim x =>
    rw [resolver_claim]
    rw [Step.accepted] at h
    rcases hclaim : w.resolver.claim x with ⟨e | held, r⟩ <;> rw [hclaim] at h
    · cases h
    · obtain rfl := List.mem_singleton.1 h
      exact Resolver.holds_of_claim hclaim
  | apply name file =>
    rw [resolver_apply]
    rw [Step.accepted] at h
    cases hmodels : file.toModels with
    | error e =>
      rw [hmodels] at h
      cases h
    | ok models =>
      rw [hmodels] at h
      rw [SchemaFile.apply_of_toModels _ _ hmodels]
      exact SchemaFile.holds_of_mem_accepted h
  | _ => exact hrendered h

/-- What a run has accepted is held in the end. -/
theorem holds_of_mem_accepted (hw : w.resolver.Keyed) {m : Model} (h : m ∈ w.accepted steps) :
    (w.run steps).2.resolver.Holds m := by
  induction steps generalizing w with
  | nil => cases h
  | cons s rest ih =>
    have hnext := keyed_step hw s
    rw [accepted] at h
    rcases List.mem_append.1 h with h | h
    · exact (holds_of_mem_accepted_step h).mono (extends_run hnext rest)
    · exact ih hnext h

/-- One definition for each identity, and the first one wins.  An entry of a cache stays as it is
for the rest of a run, be it there before a step or left by a block inside of one.  A claim
succeeds just when no other definition is held, and answers the one that is held then; one that
fails changes nothing.  All models that a run accepts under an identity are equal. -/
theorem first_definition_wins (catalog : Catalog) (steps : List Step) :
    let w := new catalog
    let r := (w.run steps).2.resolver
    (∀ before after, steps = before ++ after → (w.run before).2.resolver.Extends r) ∧
    (∀ x ∈ w.renderings steps, x.before.Extends x.after ∧ x.after.Extends r) ∧
    (∀ m, ((∃ held, (r.claim m).1 = .ok held) ↔
          ∀ held, r.models.get? m.id = some held → held.Same m) ∧
        (∀ held, (r.claim m).1 = .ok held →
          held = (r.models.get? m.id).getD m ∧ (r.claim m).2.models.get? m.id = some held) ∧
        ∀ e, (r.claim m).1 = .error e → (r.claim m).2 = r) ∧
    ∀ a ∈ w.accepted steps, ∀ b ∈ w.accepted steps, a.id = b.id → a.Same b := by
  intro w r
  have hnew : w.resolver.Keyed := Resolver.keyed_new catalog
  refine ⟨?_, ?_, fun m => ⟨Resolver.exists_claim_ok_iff, ?_, ?_⟩, ?_⟩
  · rintro before after rfl
    have hkept := extends_run (keyed_run hnew before) after
    rwa [← run_append] at hkept
  · intro x hx
    have hkept := kept_of_mem_renderings hnew hx
    have hblock := Request.extends_render x.dialect x.before x.request
    rw [hkept.render] at hblock
    exact ⟨hblock, hkept.keeps⟩
  · intro held h
    have hclaim : r.claim m = (.ok held, (r.claim m).2) := Prod.ext h rfl
    exact ⟨(Resolver.claim_eq_ok_iff.1 hclaim).1, (Resolver.claim_ok hclaim).2.1⟩
  · intro e h
    exact (Resolver.claim_error (Prod.ext h rfl)).1
  · intro a ha b hb hid
    exact (holds_of_mem_accepted hnew ha).same (holds_of_mem_accepted hnew hb) hid

end Workspace
end SchemaDdl
