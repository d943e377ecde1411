import SamTemplate.Proofs.CompiledFunctions

/-!
# What a compilation collects

The output of a compilation in closed form: which tables, buckets and layers it has,
and which functions in which order, told from the resources of the resolved template
(`CollectedFrom`). Each resource is read by itself (`specsOf`, `functionOf?`), so what
is known of one resource and what it gives carries over to the output.

* `compileDocument_collectedFrom`: a template that is compiled is compiled to this;
* `FunctionSpec.pairwise_inNameOrder`: the order of the functions, which is strict as no
  two have one logical id.
-/

namespace SamTemplate

open Collecting

namespace Collecting

variable {α : Type} {x : Collecting α} {a b : α} {told told' : List String}

/-- What a computation gives, apart from what it tells. -/
def value (x : Collecting α) : α := (x.run .empty).1

theorem Tells.value_eq (h : Tells x a told) : x.value = a := congrArg Prod.fst (h .empty)

end Collecting

/-! ### Look-ups -/

theorem Entries.mem_of_get? {α : Type} {entries : Entries α} {key : String} {value : α}
    (h : entries.get? key = some value) : (key, value) ∈ entries := by
  induction entries with
  | nil => exact nomatch h
  | cons pair rest ih =>
    rw [get?_cons] at h
    split at h
    · rename_i hkey
      obtain rfl := hkey
      obtain rfl := Option.some.inj h
      exact List.mem_cons_self
    · exact List.mem_cons_of_mem _ (ih h)

namespace Bindings

variable {α : Type} {key : String} {value : α}

theorem mem_of_get?_insertAll {bindings : Bindings α} {pairs : List (String × α)}
    (h : (bindings.insertAll pairs).get? key = some value) :
    (key, value) ∈ pairs ∨ bindings.get? key = some value := by
  induction pairs generalizing bindings with
  | nil => exact .inr h
  | cons pair rest ih =>
    rcases @ih (bindings.insert pair.1 pair.2) h with hmem | hget
    · exact .inl (List.mem_cons_of_mem _ hmem)
    · rw [get?_insert] at hget
      split at hget
      · rename_i hkey
        obtain rfl := hkey
        obtain rfl := Option.some.inj hget
        exact .inl List.mem_cons_self
      · exact .inr hget

/-- What is bound by pairs is one of them. -/
theorem mem_of_get?_ofList {pairs : List (String × α)}
    (h : (ofList pairs).get? key = some value) : (key, value) ∈ pairs :=
  (mem_of_get?_insertAll h).resolve_right nofun

/-- Pairs with different keys are those of the map that binds them. -/
theorem entries_ofList_perm {pairs : Entries α} (hd : pairs.Distinct) :
    (ofList pairs).entries.Perm pairs := by
  have hsorted := (ofList pairs).sorted.distinct
  refine (List.perm_ext_iff_of_nodup hsorted.of_map hd.of_map).2 fun pair => ?_
  have hget : (ofList pairs).get? pair.1 = pairs.get? pair.1 := by
    rw [ofList, get?_insertAll _ hd]
    exact Option.or_none
  rw [← Entries.get?_eq_some_iff hsorted, ← Entries.get?_eq_some_iff hd, ← hget]
  rfl

end Bindings

/-! ### The order of functions -/

namespace FunctionSpec

/-- A function stands before another one by its name, or else by its logical id. -/
def Before (a b : FunctionSpec) : Prop :=
  a.name < b.name ∨ (a.name = b.name ∧ a.logicalId < b.logicalId)

theorem Before.asymm {a b : FunctionSpec} (h : a.Before b) : ¬ b.Before a := by
  rcases h with h | ⟨heq, h⟩ <;> rintro (h' | ⟨heq', h'⟩)
  · exact String.lt_irrefl _ (String.lt_trans h h')
  · exact String.lt_irrefl _ (heq' ▸ h)
  · exact String.lt_irrefl _ (heq ▸ h')
  · exact String.lt_irrefl _ (String.lt_trans h h')

/-- The order in which functions are put is that of names, and then of logical ids. -/
theorem pairwise_le_inNameOrder (functions : List FunctionSpec) :
    (inNameOrder functions).Pairwise fun a b =>
      a.name < b.name ∨ (a.name = b.name ∧ a.logicalId ≤ b.logicalId) := by
  refine (List.pairwise_mergeSort ?_ ?_ functions).imp fun h => of_decide_eq_true h
  · intro a b c hab hbc
    refine decide_eq_true ?_
    rcases of_decide_eq_true hab with hab | ⟨hab, hab'⟩ <;>
      rcases of_decide_eq_true hbc with hbc | ⟨hbc, hbc'⟩
    · exact .inl (String.lt_trans hab hbc)
    · exact .inl (hbc ▸ hab)
    · exact .inl (hab ▸ hbc)
    · exact .inr ⟨hab.trans hbc, String.le_trans hab' hbc'⟩
  · intro a b
    rcases Entries.lt_or_eq_or_gt a.name b.name with h | h | h
    · simp [h]
    · rcases String.le_total a.logicalId b.logicalId with h' | h' <;> simp [h, h']
    · simp [h]

/-- Without repeated logical ids each function stands before those that follow. -/
theorem pairwise_inNameOrder {functions : List FunctionSpec}
    (hd : (functions.map (·.logicalId)).Nodup) : (inNameOrder functions).Pairwise Before := by
  have hne : (inNameOrder functions).Pairwise fun a b => a.logicalId ≠ b.logicalId :=
    List.pairwise_map.1 (((inNameOrder_perm functions).map _).nodup_iff.2 hd)
  refine ((pairwise_le_inNameOrder functions).and hne).imp fun {a b} ⟨hle, hne⟩ => ?_
  rcases hle with h | ⟨heq, hle⟩
  · exact .inl h
  · rcases Entries.lt_or_eq_or_gt a.logicalId b.logicalId with h | h | h
    · exact .inr ⟨heq, h⟩
    · exact absurd h hne
    · exact absurd hle (String.not_le.2 h)

/-- What is said of functions is kept apart by their logical ids. -/
theorem distinct_map_logicalId {α : Type} {functions : List FunctionSpec}
    (hd : (functions.map (·.logicalId)).Nodup) (f : FunctionSpec → α) :
    Entries.Distinct (functions.map fun function => (function.logicalId, f function)) := by
  rw [Entries.Distinct, Entries.keys, List.map_map]
  exact hd

/-- Some of the functions are in the same order as among all. -/
theorem inNameOrder_filter {functions : List FunctionSpec}
    (hd : (functions.map (·.logicalId)).Nodup) (p : FunctionSpec → Bool) :
    (inNameOrder functions).filter p = inNameOrder (functions.filter p) := by
  have hfilter : ((functions.filter p).map (·.logicalId)).Nodup :=
    (List.filter_sublist.map _).nodup hd
  refine List.Perm.eq_of_pairwise (fun a b _ _ hab hba => absurd hba hab.asymm)
    ((pairwise_inNameOrder hd).sublist List.filter_sublist) (pairwise_inNameOrder hfilter) ?_
  exact ((inNameOrder_perm functions).filter p).trans (inNameOrder_perm _).symm

end FunctionSpec

/-! ### Resource by resource -/

/-- The specifications of the resources of a type, under their logical ids. -/
def specsOf {α : Type} (type : ResourceType) (spec : String → Entries Node → Collecting α)
    (resources : List (String × Node)) : Entries α :=
  resources.filterMap fun entry =>
    if ResourceType.of? entry.2 = some type then
      some (entry.1, (spec entry.1 ((properties? entry.2).getD [])).value)
    else none

/-- The layers among resources, under their logical ids. -/
def layerSpecsOf (resources : List (String × Node)) : Entries LayerSpec :=
  resources.filterMap fun entry =>
    if ResourceType.of? entry.2 = some .layer then
      (properties? entry.2).map fun properties => (entry.1, layerSpec entry.1 properties)
    else none

theorem key_of_layerSpecsOf {entry : String × Node} {layer : String × LayerSpec}
    (h : (if ResourceType.of? entry.2 = some .layer then
      (properties? entry.2).map fun properties => (entry.1, layerSpec entry.1 properties)
    else none) = some layer) : layer.1 = entry.1 := by
  split at h
  · obtain ⟨_, -, rfl⟩ := Option.map_eq_some_iff.1 h
    rfl
  · exact nomatch h

theorem collectLayers_get? (resources : Entries Node) (logicalId : String) :
    (collectLayers resources).get? logicalId
      = (layerSpecsOf resources.inKeyOrder).get? logicalId := by
  have hd := Entries.Distinct.filterMap (Bindings.ofList resources).sorted.distinct
    fun _ _ => key_of_layerSpecsOf
  exact (Bindings.get?_insertAll .empty hd logicalId).trans (Option.or_none ..)

/-- The function that a resource gives, if it gives one. -/
def functionOf? (defaults : FunctionDefaults) (layers : Bindings LayerSpec) (logicalId : String)
    (resource : Node) : Option FunctionSpec :=
  ((function? defaults layers logicalId resource).run.value.toOption).join

/-- The tables and buckets that are collected are those of the resources, one by one. -/
theorem collectBackingFrom_tells_specsOf (resources : List (String × Node)) :
    ∃ told, Tells (collectBackingFrom resources)
      ⟨(specsOf .table tableSpec resources).map (·.2),
        (specsOf .bucket bucketSpec resources).map (·.2), []⟩ told := by
  induction resources with
  | nil => exact ⟨_, .pure _⟩
  | cons pair rest ih =>
    obtain ⟨logicalId, resource⟩ := pair
    obtain ⟨told, hrest⟩ := ih
    unfold collectBackingFrom
    split
    · rename_i htype
      obtain ⟨table, told', h⟩ := tableSpec_tells logicalId ((properties? resource).getD [])
      refine ⟨told' ++ (told ++ []), ?_⟩
      have hvalue := h.value_eq
      simp only [specsOf, List.filterMap_cons, htype, if_true, List.map_cons, hvalue] at hrest ⊢
      exact h.bind (hrest.bind (.pure _))
    · rename_i htype
      obtain ⟨bucket, told', h⟩ := bucketSpec_tells logicalId ((properties? resource).getD [])
      refine ⟨told' ++ (told ++ []), ?_⟩
      have hvalue := h.value_eq
      simp only [specsOf, List.filterMap_cons, htype, if_true, List.map_cons, hvalue] at hrest ⊢
      exact h.bind (hrest.bind (.pure _))
    · rename_i htable hbucket
      refine ⟨told, ?_⟩
      simpa only [specsOf, List.filterMap_cons, if_neg htable, if_neg hbucket] using hrest

/-- The functions that are collected are those of the resources, one by one. -/
theorem collectFunctionsFrom_eq_filterMap {defaults : FunctionDefaults}
    {layers : Bindings LayerSpec} {resources : List (String × Node)}
    {functions : List FunctionSpec} {told : List String}
    (h : Tells (collectFunctionsFrom defaults layers resources).run (.ok functions) told) :
    functions = resources.filterMap fun entry => functionOf? defaults layers entry.1 entry.2 := by
  induction resources generalizing functions told with
  | nil => exact (Except.ok.inj h.value_eq).symm
  | cons pair rest ih =>
    obtain ⟨logicalId, resource⟩ := pair
    obtain ⟨outcome, told', ht, -⟩ := function?_tells defaults layers logicalId resource
    rw [List.filterMap_cons]
    cases outcome with
    | error error =>
      -- Nothing is gathered after an error.
      have hfail := ht.fail fun function => do
        let functions ← collectFunctionsFrom defaults layers rest
        return function.toList ++ functions
      exact nomatch h.value_eq.symm.trans hfail.value_eq
    | ok function =>
      have hfunction : functionOf? defaults layers logicalId resource = function := by
        rw [functionOf?, ht.value_eq]
        rfl
      rcases collectFunctionsFrom_tells defaults layers rest with
        ⟨error, told'', ht', -⟩ | ⟨functions', told'', ht', -⟩
      · have hfail : Tells (collectFunctionsFrom defaults layers
            ((logicalId, resource) :: rest)).run (.error error) _ := ht.andThen (ht'.fail _)
        exact nomatch h.value_eq.symm.trans hfail.value_eq
      · have hok : Tells (collectFunctionsFrom defaults layers ((logicalId, resource) :: rest)).run
            (.ok (function.toList ++ functions')) _ := ht.andThen (ht'.andThen (.ok _))
        rw [Except.ok.inj (h.value_eq.symm.trans hok.value_eq), ih ht', hfunction]
        cases function <;> rfl

/-- The function of a resource is one of the ways in which it is extracted. -/
theorem extracts_of_functionOf? {defaults : FunctionDefaults} {layers : Bindings LayerSpec}
    {logicalId : String} {resource : Node} {function : FunctionSpec}
    (h : functionOf? defaults layers logicalId resource = some function) :
    ∃ told, Extracts logicalId resource (.ok (some function)) told := by
  obtain ⟨outcome, told, ht, he⟩ := function?_tells defaults layers logicalId resource
  rw [functionOf?, ht.value_eq] at h
  cases outcome with
  | error error => exact nomatch h
  | ok function' =>
    obtain rfl : function' = some function := h
    exact ⟨told, he⟩

/-! ### The output -/

/-- The resources of a template after everything in it that can be resolved is; none if
    it has no mapping of them. -/
def resolvedResources (document : Entries Node) (overrides : Parameters) : Entries Node :=
  (((resolveDocument document overrides).1.get? "Resources").bind Node.entries?).getD []

/-- The settings that the functions of the resolved template have in common. -/
def resolvedDefaults (document : Entries Node) (overrides : Parameters) : FunctionDefaults :=
  .ofTemplate ((resolveDocument document overrides).1.entries?.getD [])

/-- The functions of a template in the order of their logical ids. -/
def collectedFunctions (document : Entries Node) (overrides : Parameters) : List FunctionSpec :=
  (resolvedResources document overrides).inKeyOrder.filterMap fun entry =>
    functionOf? (resolvedDefaults document overrides)
      (collectLayers (resolvedResources document overrides)) entry.1 entry.2

/-- How the output of a compilation is collected from the resolved template. -/
structure CollectedFrom (document : Entries Node) (overrides : Parameters)
    (compilation : Compilation) : Prop where
  functions_eq :
    compilation.functions = FunctionSpec.inNameOrder (collectedFunctions document overrides)
  tables_eq : compilation.resources.tables
    = (specsOf .table tableSpec (resolvedResources document overrides).inKeyOrder).map (·.2)
  buckets_eq : compilation.resources.buckets
    = (specsOf .bucket bucketSpec (resolvedResources document overrides).inKeyOrder).map (·.2)
  layers_eq :
    compilation.resources.layers = (collectLayers (resolvedResources document overrides)).values
  warnings_eq : ∃ told,
    compilation.warnings = ((resolveDocument document overrides).2.warnings.addAll told).messages

section

variable {document : Entries Node} {overrides : Parameters} {compilation : Compilation}

/-- A template that is compiled is compiled to what is collected from it. -/
theorem compileDocument_collectedFrom (h : compileDocument document overrides = .ok compilation) :
    CollectedFrom document overrides compilation := by
  cases he : (resolveDocument document overrides).1.entries? with
  | none => cases h.symm.trans (compileDocument_of_notMapping he)
  | some root =>
    have hget :
        (resolveDocument document overrides).1.get? "Resources" = root.get? "Resources" := by
      rw [Node.get?, he]
      rfl
    have hdefaults : resolvedDefaults document overrides = .ofTemplate root := by
      rw [resolvedDefaults, he]
      rfl
    cases hr : (root.get? "Resources").bind Node.entries? with
    | none =>
      have hnone : resolvedResources document overrides = [] := by
        rw [resolvedResources, hget, hr]
        rfl
      obtain rfl := Except.ok.inj (h.symm.trans (compileDocument_of_noResources he hr))
      constructor
      · have hfunctions : collectedFunctions document overrides = [] := by
          rw [collectedFunctions, hnone]
          rfl
        rw [hfunctions, FunctionSpec.inNameOrder, List.mergeSort_nil]
        rfl
      · rw [hnone]
        rfl
      · rw [hnone]
        rfl
      · rw [hnone]
        rfl
      · exact ⟨[], rfl⟩
    | some resources =>
      have hsome : resolvedResources document overrides = resources := by
        rw [resolvedResources, hget, hr]
        rfl
      obtain ⟨told, hb⟩ := collectBackingFrom_tells_specsOf resources.inKeyOrder
      obtain ⟨outcome, told', ht⟩ :=
        collectFunctions_tells resources (.ofTemplate root) (collectLayers resources)
      have hcompile := h.symm.trans
        (compileDocument_of_resources he hr (extract_tells_of hb ht))
      cases outcome with
      | error error => cases hcompile
      | ok functions =>
        obtain rfl := Except.ok.inj hcompile
        subst hsome
        constructor
        · rw [collectedFunctions, hdefaults, ← collectFunctionsFrom_eq_filterMap ht]
        · rfl
        · rfl
        · rfl
        · exact ⟨_, rfl⟩

/-- A collected function is that of a resource with its logical id. -/
theorem exists_of_mem_collectedFunctions {function : FunctionSpec}
    (h : function ∈ collectedFunctions document overrides) :
    ∃ resource, (function.logicalId, resource) ∈ (resolvedResources document overrides).inKeyOrder ∧
      functionOf? (resolvedDefaults document overrides)
        (collectLayers (resolvedResources document overrides)) function.logicalId resource
        = some function := by
  obtain ⟨⟨logicalId, resource⟩, hmem, hfunction⟩ := List.mem_filterMap.1 h
  obtain ⟨told, he⟩ := extracts_of_functionOf? hfunction
  obtain rfl : function.logicalId = logicalId := he.logicalId_eq
  exact ⟨resource, hmem, hfunction⟩

theorem nodup_collectedFunctions (document : Entries Node) (overrides : Parameters) :
    ((collectedFunctions document overrides).map (·.logicalId)).Nodup := by
  have hd := (Bindings.ofList (resolvedResources document overrides)).sorted.distinct
  -- Each function under the key of its resource, which is its logical id.
  have hlabelled := Entries.Distinct.filterMap hd (f := fun entry =>
    (functionOf? (resolvedDefaults document overrides)
      (collectLayers (resolvedResources document overrides)) entry.1 entry.2).map (entry.1, ·))
    fun entry value hv => by
      obtain ⟨_, -, rfl⟩ := Option.map_eq_some_iff.1 hv
      rfl
  refine (congrArg List.Nodup ?_).mp hlabelled
  rw [collectedFunctions, Entries.keys, List.map_filterMap, List.map_filterMap]
  refine List.filterMap_congr fun entry _ => ?_
  cases hf : functionOf? (resolvedDefaults document overrides)
      (collectLayers (resolvedResources document overrides)) entry.1 entry.2 with
  | none => rfl
  | some function =>
    obtain ⟨told, he⟩ := extracts_of_functionOf? hf
    exact congrArg some he.logicalId_eq.symm

/-- A text that is compiled is that of a template, and compiled to what is collected from it. -/
theorem exists_collectedFrom_of_compile {text : String}
    (h : compile text overrides = .ok compilation) :
    ∃ document, readDocument text = .ok document ∧
      CollectedFrom document overrides compilation := by
  rw [compile] at h
  split at h
  · exact nomatch h
  · exact ⟨_, ‹_›, compileDocument_collectedFrom h⟩

theorem CollectedFrom.nodup_logicalIds (h : CollectedFrom document overrides compilation) :
    (compilation.functions.map (·.logicalId)).Nodup := by
  rw [h.functions_eq]
  exact ((FunctionSpec.inNameOrder_perm _).map _).nodup_iff.2
    (nodup_collectedFunctions document overrides)

end

end SamTemplate
