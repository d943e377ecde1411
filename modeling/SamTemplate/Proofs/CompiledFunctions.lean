import Mathlib.Data.List.Nodup
import SamTemplate.Proofs.FunctionResources

/-!
# Compiled functions

Which functions a compilation gives and when it fails for an image, told from the
resolved template. Resources are gone through in the order of their logical ids, so
an error is about the least one that is in the way; the functions are put in the
order of their names at the end, which neither loses nor adds any.

* `compileDocument_functions`: the criterion, the error, the functions and the
  notices about what is left out.
-/

namespace SamTemplate

open Collecting

theorem Entries.Sorted.distinct {α : Type} {entries : Entries α} (h : entries.Sorted) :
    entries.Distinct := by
  refine List.pairwise_map.2 (List.Pairwise.imp (fun {a b} hlt heq => ?_) h)
  rw [heq] at hlt
  exact String.lt_irrefl b.1 hlt

/-- The resources that are gone through are those found by logical id. -/
theorem mem_inKeyOrder_iff {resources : Entries Node} {logicalId : String} {resource : Node} :
    (logicalId, resource) ∈ resources.inKeyOrder
      ↔ (Bindings.ofList resources).get? logicalId = some resource :=
  (Entries.get?_eq_some_iff (Bindings.ofList resources).sorted.distinct).symm

theorem FunctionSpec.inNameOrder_perm (functions : List FunctionSpec) :
    (inNameOrder functions).Perm functions :=
  List.mergeSort_perm functions _

theorem Blocks.unique {logicalId : String} {resource : Node} {error error' : ImageError}
    (h : Blocks logicalId resource error) (h' : Blocks logicalId resource error') :
    error = error' := by
  obtain ⟨kind, properties, hd, -, -, rfl⟩ := h
  obtain ⟨kind', properties', hd', -, -, rfl⟩ := h'
  obtain ⟨rfl, rfl⟩ := hd.unique hd'
  rfl

/-- The error is about the least logical id whose function has no usable image. -/
def FirstBlocks (resources : Entries Node) (error : ImageError) : Prop :=
  ∃ logicalId resource, (Bindings.ofList resources).get? logicalId = some resource ∧
    Blocks logicalId resource error ∧
    ∀ other resource' error', (Bindings.ofList resources).get? other = some resource' →
      Blocks other resource' error' → logicalId ≤ other

theorem FirstBlocks.unique {resources : Entries Node} {error error' : ImageError}
    (h : FirstBlocks resources error) (h' : FirstBlocks resources error') : error = error' := by
  obtain ⟨logicalId, resource, hget, hblocks, hleast⟩ := h
  obtain ⟨other, resource', hget', hblocks', hleast'⟩ := h'
  obtain rfl : logicalId = other := String.le_antisymm
    (hleast other resource' error' hget' hblocks') (hleast' logicalId resource error hget hblocks)
  obtain rfl : resource = resource' := Option.some.inj (hget.symm.trans hget')
  exact hblocks.unique hblocks'

theorem Stops.firstBlocks {resources : Entries Node} {error : ImageError}
    (h : Stops resources.inKeyOrder error) : FirstBlocks resources error := by
  obtain ⟨before, entry, after, hsplit, hblocks, hbefore⟩ := h.first_blocks
  have hmem : entry ∈ resources.inKeyOrder := hsplit ▸ List.mem_append_right _ List.mem_cons_self
  refine ⟨entry.1, entry.2, mem_inKeyOrder_iff.1 hmem, hblocks,
    fun other resource error' hget hother => ?_⟩
  have hmem' := mem_inKeyOrder_iff.2 hget
  rw [hsplit, List.mem_append, List.mem_cons] at hmem'
  rcases hmem' with hmem' | heq | hmem'
  · exact absurd hother (hbefore _ hmem' error')
  · exact heq ▸ String.le_refl _
  · -- What comes after has a greater key.
    have hsorted : (resources.inKeyOrder).Sorted := (Bindings.ofList resources).sorted
    rw [hsplit] at hsorted
    have hafter := (List.pairwise_cons.1 (List.pairwise_append.1 hsorted).2.1).1 _ hmem'
    exact String.not_lt.1 fun hlt => String.lt_irrefl _ (String.lt_trans hafter hlt)

section

variable {document root resources : Entries Node} {overrides : Parameters}

/-- Compiling a template with resources is going through them, and what is told on the
    way is among the notices, once. -/
theorem compileDocument_collects
    (hroot : (resolveDocument document overrides).1 = .map root)
    (hresources : root.get? "Resources" = some (.map resources)) :
    (∃ error, Stops resources.inKeyOrder error ∧
      compileDocument document overrides = .error (.image error)) ∨
    ∃ functions told compilation, Gathers resources.inKeyOrder functions told ∧
      compileDocument document overrides = .ok compilation ∧
      compilation.functions = FunctionSpec.inNameOrder functions ∧
      ∀ m ∈ told, compilation.warnings.count m = 1 := by
  have hentries : (resolveDocument document overrides).1.entries? = some root := by rw [hroot]; rfl
  have hbind : (root.get? "Resources").bind Node.entries? = some resources := by
    rw [hresources]; rfl
  rcases collectFunctionsFrom_tells (.ofTemplate root) (collectLayers resources)
    resources.inKeyOrder with ⟨error, told, ht, hs⟩ | ⟨functions, told, ht, hg⟩
  · obtain ⟨specs, told', hx⟩ := extract_tells ht
    exact .inl ⟨error, hs, compileDocument_of_resources hentries hbind hx⟩
  · obtain ⟨specs, told', hx⟩ := extract_tells ht
    refine .inr ⟨functions, told, _, hg, compileDocument_of_resources hentries hbind hx, rfl,
      fun m hm => ?_⟩
    exact List.count_eq_one_of_mem (Warnings.nodup _)
      ((Warnings.mem_addAll _ _ m).2 (.inr (List.mem_append_right _ hm)))

/-- Without an error the functions are those of the resources that are to give one, and
    what is left out is told. -/
theorem Gathers.output {functions : List FunctionSpec} {told : List String}
    {compilation : Compilation} (h : Gathers resources.inKeyOrder functions told)
    (hfunctions : compilation.functions = FunctionSpec.inNameOrder functions)
    (htold : ∀ m ∈ told, compilation.warnings.count m = 1) :
    (compilation.functions.map (·.logicalId)).Nodup ∧
    (∀ logicalId, logicalId ∈ compilation.functions.map (·.logicalId) ↔
      ∃ resource, (Bindings.ofList resources).get? logicalId = some resource ∧
        GivesFunction resource) ∧
    ∀ logicalId resource, (Bindings.ofList resources).get? logicalId = some resource →
      (∀ kind, HasKind resource kind → (∀ properties, ¬ Describes resource kind properties) →
        compilation.warnings.count (Notice.functionWithoutProperties logicalId).message = 1) ∧
      ∀ properties, Describes resource .lambda properties →
        ¬ FunctionKind.lambda.InImageMode properties →
        compilation.warnings.count
          (Notice.zipNotSupported "AWS::Lambda::Function" logicalId).message = 1 := by
  have hperm : (compilation.functions.map (·.logicalId)).Perm (functions.map (·.logicalId)) :=
    hfunctions ▸ (FunctionSpec.inNameOrder_perm functions).map _
  refine ⟨?_, fun logicalId => ?_, fun logicalId resource hget => ?_⟩
  · exact hperm.nodup_iff.2
      (h.ids_sublist.nodup (Bindings.ofList resources).sorted.distinct)
  · rw [hperm.mem_iff, h.mem_ids_iff]
    simp only [mem_inKeyOrder_iff]
  · obtain ⟨function, told', he, -, hkept⟩ := h.extracts _ (mem_inKeyOrder_iff.2 hget)
    exact ⟨fun kind hkind hnone => htold _ (hkept _ (he.mem_told_of_withoutProperties hkind hnone)),
      fun properties hd hzip => htold _ (hkept _ (he.mem_told_of_zipNotSupported hd hzip))⟩

/-- For a template that is resolved to a mapping with a mapping of resources: it is
    compiled if and only if every function in image mode has a reference that is not
    empty and has no token in it, and the error is else about the first without one.
    The functions are those of the resources that are to give one, each once; what is
    left out for its form is told once. -/
theorem compileDocument_functions
    (hroot : (resolveDocument document overrides).1 = .map root)
    (hresources : root.get? "Resources" = some (.map resources)) :
    ((∃ compilation, compileDocument document overrides = .ok compilation) ↔
      ∀ logicalId resource kind properties,
        (Bindings.ofList resources).get? logicalId = some resource →
        Describes resource kind properties → kind.InImageMode properties →
        ¬ UnusableUri (kind.imageUri properties)) ∧
    (∀ error, compileDocument document overrides = .error error ↔
      ∃ imageError, error = .image imageError ∧ FirstBlocks resources imageError) ∧
    ∀ compilation, compileDocument document overrides = .ok compilation →
      (compilation.functions.map (·.logicalId)).Nodup ∧
      (∀ logicalId, logicalId ∈ compilation.functions.map (·.logicalId) ↔
        ∃ resource, (Bindings.ofList resources).get? logicalId = some resource ∧
          GivesFunction resource) ∧
      ∀ logicalId resource, (Bindings.ofList resources).get? logicalId = some resource →
        (∀ kind, HasKind resource kind → (∀ properties, ¬ Describes resource kind properties) →
          compilation.warnings.count (Notice.functionWithoutProperties logicalId).message = 1) ∧
        ∀ properties, Describes resource .lambda properties →
          ¬ FunctionKind.lambda.InImageMode properties →
          compilation.warnings.count
            (Notice.zipNotSupported "AWS::Lambda::Function" logicalId).message = 1 := by
  rcases compileDocument_collects hroot hresources with
    ⟨error, hs, hcompile⟩ | ⟨functions, told, compilation, hg, hcompile, hfunctions, htold⟩
  · -- The error is the only one, since there is one first resource in the way.
    have hfirst := hs.firstBlocks
    rw [hcompile]
    refine ⟨⟨fun ⟨_, h⟩ => (nomatch h), fun h => ?_⟩, fun error' => ⟨?_, ?_⟩,
      fun _ h => (nomatch h)⟩
    · obtain ⟨_, _, hget, ⟨_, _, hd, hmode, huri, -⟩, -⟩ := hfirst
      exact absurd huri (h _ _ _ _ hget hd hmode)
    · rintro ⟨⟩
      exact ⟨error, rfl, hfirst⟩
    · rintro ⟨imageError, rfl, hfirst'⟩
      rw [hfirst.unique hfirst']
  · -- All resources were gone through, and so none of them is in the way.
    have hnone {logicalId : String} {resource : Node} {error : ImageError}
        (hget : (Bindings.ofList resources).get? logicalId = some resource) :
        ¬ Blocks logicalId resource error := by
      obtain ⟨_, _, he, -⟩ := hg.extracts _ (mem_inKeyOrder_iff.2 hget)
      exact he.not_blocks
    rw [hcompile]
    refine ⟨⟨fun _ logicalId resource kind properties hget hd hmode huri => ?_,
      fun _ => ⟨compilation, rfl⟩⟩, fun error => ⟨fun h => (nomatch h), ?_⟩, ?_⟩
    · exact hnone hget ⟨kind, properties, hd, hmode, huri, rfl⟩
    · rintro ⟨imageError, -, logicalId, resource, hget, hblocks, -⟩
      exact absurd hblocks (hnone hget)
    · rintro _ ⟨⟩
      exact hg.output hfunctions htold

end

/-- A function that is shipped as an image. -/
def resize : Node :=
  .map [("Type", .str "AWS::Lambda::Function"),
    ("Properties", .map [("Code", .map [("ImageUri", .str " repository/resize:1 ")])])]

/-- A function without properties. -/
def label : Node := .map [("Type", .str "AWS::Serverless::Function")]

/-- A template with the two. -/
def pictured : Entries Node := [("Resources", .map [("Resize", resize), ("Label", label)])]

/-- A template of two functions, one of them in image mode and one without properties. -/
theorem compileDocument_functions_pictured :
    ∃ compilation, compileDocument pictured .empty = .ok compilation ∧
      "Resize" ∈ compilation.functions.map (·.logicalId) ∧
      compilation.warnings.count (Notice.functionWithoutProperties "Label").message = 1 := by
  have hroot : (resolveDocument pictured .empty).1 = .map pictured := rfl
  obtain ⟨-, -, houtput⟩ := compileDocument_functions hroot rfl
  have hresize : Describes resize .lambda
      [("Code", .map [("ImageUri", .str " repository/resize:1 ")])] := ⟨⟨_, rfl, rfl⟩, rfl⟩
  have hmode : FunctionKind.lambda.InImageMode
      [("Code", .map [("ImageUri", .str " repository/resize:1 ")])] := .inr (by decide)
  obtain ⟨compilation, hcompile⟩ :
      ∃ compilation, compileDocument pictured .empty = .ok compilation := ⟨_, rfl⟩
  obtain ⟨-, hids, htold⟩ := houtput compilation hcompile
  refine ⟨compilation, hcompile, (hids "Resize").2 ⟨resize, rfl, _, _, hresize, .inr hmode⟩, ?_⟩
  exact (htold "Label" label rfl).1 .serverless ⟨_, rfl, rfl⟩ fun _ h => nomatch h.properties

end SamTemplate
