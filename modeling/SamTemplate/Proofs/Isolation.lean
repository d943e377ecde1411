import SamTemplate.Digest.Fingerprint
import SamTemplate.Proofs.Collected
import SamTemplate.Proofs.DocumentOrder
import SamTemplate.Proofs.Settling

/-!
# Edits of one resource

What a resource compiles to does not depend on the resources beside it. Resources are
resolved by one session, which remembers conditions and notes what is wrong, but from
scratch each is resolved to the same (`Scratch.Settles`), and each is read by itself,
with what the template has for all functions and with the layers. So an edit of one
resource that is no layer (`EditedAt`) shows in what comes of this resource only.

* `Entries.AgreesBut`: entries that agree but for what is under one key;
* `EditedAt.resolved`: an edited template is resolved to an edited template;
* `compileDocument_of_edited`: the functions, tables, buckets, layers and fingerprints of
  all other resources are the same.
-/

namespace SamTemplate

open Node Scratch

/-! ### Entries that agree but for one key -/

namespace Entries

variable {α β : Type} {key other : String} {R : α → α → Prop} {entries entries' : Entries α}

/-- The entries under other keys. -/
def without (key : String) (entries : Entries α) : Entries α := entries.filter (·.1 ≠ key)

/-- Entries with the same keys, and the same values but for those under one key, which are
    related. -/
def AgreesBut (key : String) (R : α → α → Prop) (entries entries' : Entries α) : Prop :=
  List.Forall₂ (fun a b => a.1 = b.1 ∧ if a.1 = key then R a.2 b.2 else a.2 = b.2) entries entries'

theorem AgreesBut.keys_eq (h : AgreesBut key R entries entries') : entries.keys = entries'.keys :=
  map_eq_of_forall₂ h fun _ _ hpair => hpair.1

theorem AgreesBut.get?_eq (h : AgreesBut key R entries entries') (hne : other ≠ key) :
    get? other entries = get? other entries' := by
  have hrel := get?_of_keyed (P := fun other a b => if other = key then R a b else a = b) h other
  rcases rel_cases hrel with ⟨hnone, hnone'⟩ | ⟨a, b, hsome, hsome', heq⟩
  · rw [hnone, hnone']
  · rw [hsome, hsome', (if_neg hne).mp heq]

theorem AgreesBut.rel_get? (h : AgreesBut key R entries entries') :
    Option.Rel R (get? key entries) (get? key entries') := by
  have hrel := get?_of_keyed (P := fun other a b => if other = key then R a b else a = b) h key
  simpa only [if_true] using hrel

/-- What both have under the key is related. -/
theorem AgreesBut.exists_get? (h : AgreesBut key R entries entries') (hmem : key ∈ keys entries) :
    ∃ a b, R a b ∧ get? key entries = some a ∧ get? key entries' = some b := by
  rcases rel_cases h.rel_get? with ⟨hnone, -⟩ | ⟨a, b, hsome, hsome', hab⟩
  · exact absurd hmem (get?_eq_none_iff.1 hnone)
  · exact ⟨a, b, hab, hsome, hsome'⟩

theorem get?_without (entries : Entries α) (hne : other ≠ key) :
    get? other (without key entries) = get? other entries := by
  induction entries with
  | nil => rfl
  | cons pair rest ih =>
    rw [without, List.filter_cons, get?_cons]
    by_cases hkey : pair.1 = key
    · have hother : pair.1 ≠ other := fun h => hne (h.symm.trans hkey)
      rw [if_neg hother, if_neg (by simp [hkey])]
      exact ih
    · rw [if_pos (by simp [hkey]), get?_cons]
      split
      · rfl
      · exact ih

end Entries

/-- Where the key of what an element gives is that of the element, elements with other
    keys can be left out before or after. -/
theorem filter_filterMap_of_key {α β γ : Type} {f : α → Option β} {l : List α} (keyOf : α → γ)
    (keyOf' : β → γ) (p : γ → Bool) (hf : ∀ a b, f a = some b → keyOf' b = keyOf a) :
    (l.filterMap f).filter (fun b => p (keyOf' b))
      = (l.filter fun a => p (keyOf a)).filterMap f := by
  rw [List.filter_filterMap, List.filterMap_filter]
  refine List.filterMap_congr fun a _ => ?_
  rcases hfa : f a with _ | b
  · simp
  · rw [Option.filter_some, hf a b hfa]

namespace Bindings

variable {α : Type} {key other : String} {R : α → α → Prop} {pairs pairs' : Entries α}

theorem get?_insertAll_of_agreesBut {bindings others : Bindings α}
    (h : pairs.AgreesBut key R pairs') (hget : bindings.get? other = others.get? other)
    (hne : other ≠ key) :
    (bindings.insertAll pairs).get? other = (others.insertAll pairs').get? other := by
  induction h generalizing bindings others with
  | nil => exact hget
  | @cons a b _ _ hpair _ ih =>
    refine @ih (bindings.insert a.1 a.2) (others.insert b.1 b.2) ?_
    rw [get?_insert, get?_insert, ← hpair.1, hget]
    split
    · rename_i heq
      have hvalue : a.2 = b.2 := by simpa [heq, hne] using hpair.2
      rw [hvalue]
    · rfl

end Bindings

namespace Entries

variable {α : Type} {key : String} {R : α → α → Prop} {entries entries' : Entries α}

/-- In the order of their keys, too, the entries agree. -/
theorem AgreesBut.without_inKeyOrder (h : AgreesBut key R entries entries') :
    without key entries.inKeyOrder = without key entries'.inKeyOrder := by
  have hsorted (pairs : Entries α) : Sorted (without key pairs.inKeyOrder) :=
    (Bindings.ofList pairs).sorted.sublist List.filter_sublist
  refine congrArg Bindings.entries (Bindings.ext_get? (a := ⟨_, hsorted entries⟩)
    (b := ⟨_, hsorted entries'⟩) fun other => ?_)
  change get? other (without key _) = get? other (without key _)
  by_cases hkey : other = key
  · -- Neither side has anything under the key.
    have hnone (pairs : Entries α) : get? other (without key pairs) = none :=
      get?_eq_none_iff.2 fun hmem => by
        obtain ⟨pair, hpair, heq⟩ := List.mem_map.1 hmem
        simp [without, heq, hkey] at hpair
    rw [hnone, hnone]
  · rw [get?_without _ hkey, get?_without _ hkey]
    exact Bindings.get?_insertAll_of_agreesBut h rfl hkey

/-- Entry by entry, entries that agree are resolved to entries that agree. -/
theorem AgreesBut.settles {parameters : Parameters} {conditions : Entries Node} {budget : Budget}
    {R S : Node → Node → Prop} {entries entries' results results' : Entries Node}
    (h : AgreesBut key R entries entries')
    (hresults : List.Forall₂ (OnValues (Settles parameters conditions budget)) entries results)
    (hresults' : List.Forall₂ (OnValues (Settles parameters conditions budget)) entries' results')
    (hR : ∀ a b x y, R a b → Settles parameters conditions budget a x →
      Settles parameters conditions budget b y → S x y) :
    AgreesBut key S results results' := by
  induction h generalizing results results' with
  | nil =>
    cases hresults
    cases hresults'
    exact .nil
  | @cons a b _ _ hpair _ ih =>
    rcases hresults with _ | ⟨hx, hrest⟩
    rcases hresults' with _ | ⟨hy, hrest'⟩
    refine .cons ⟨hx.1.symm.trans (hpair.1.trans hy.1), ?_⟩ (ih hrest hrest')
    have hvalue := hpair.2
    rw [← hx.1]
    by_cases hkey : a.1 = key
    · rw [if_pos hkey] at hvalue ⊢
      exact hR _ _ _ _ hvalue hx.2 hy.2
    · rw [if_neg hkey] at hvalue ⊢
      exact hx.2.unique (hvalue ▸ hy.2)

end Entries

/-! ### Edited templates -/

/-- Mappings that agree but for what is under one key, which both have. -/
def EditedUnder (key : String) (a b : Node) : Prop :=
  ∃ entries entries' : Entries Node, a = .map entries ∧ b = .map entries' ∧ key ∈ entries.keys ∧
    entries.AgreesBut key (fun _ _ => True) entries'

/-- Templates that agree but for the resource under one logical id. -/
def EditedAt (logicalId : String) (document document' : Entries Node) : Prop :=
  "Resources" ∈ document.keys ∧
    document.AgreesBut "Resources" (EditedUnder logicalId) document'

/-- Some message of a compilation tells of a cycle. -/
def Compilation.ReportsCycle (compilation : Compilation) : Prop :=
  ∃ message ∈ compilation.warnings, "Circular dependency".toList <+: message.toList

instance (compilation : Compilation) : Decidable compilation.ReportsCycle :=
  inferInstanceAs (Decidable (∃ message ∈ compilation.warnings, _))

/-- The tables of a template under their logical ids. -/
def collectedTables (document : Entries Node) (overrides : Parameters) : Entries TableSpec :=
  specsOf .table tableSpec (resolvedResources document overrides).inKeyOrder

/-- The buckets of a template under their logical ids. -/
def collectedBuckets (document : Entries Node) (overrides : Parameters) : Entries BucketSpec :=
  specsOf .bucket bucketSpec (resolvedResources document overrides).inKeyOrder

/-- A mapping with some key that names no function calls none. -/
theorem Node.intrinsic?_eq_none_of_mem_keys {key : String} {entries : Entries Node}
    (hmem : key ∈ entries.keys) (hname : Intrinsic.ofName? key = none) :
    (Node.map entries).intrinsic? = none := by
  rcases hi : (Node.map entries).intrinsic? with _ | ⟨function, operand⟩
  · rfl
  · rw [intrinsic?_eq_some_iff, call, Node.map.injEq] at hi
    subst hi
    obtain rfl : key = function.name := List.mem_singleton.1 hmem
    rw [Intrinsic.ofName?_name] at hname
    exact absurd hname (Option.some_ne_none _)

theorem CollectedFrom.reportsCycle {document : Entries Node} {overrides : Parameters}
    {compilation : Compilation} (h : CollectedFrom document overrides compilation)
    (hcycle : (resolveDocument document overrides).2.warnings.ReportsCycle) :
    compilation.ReportsCycle := by
  obtain ⟨message, hmem, hp⟩ := hcycle
  obtain ⟨told, hwarnings⟩ := h.warnings_eq
  refine ⟨message, ?_, hp⟩
  rw [hwarnings, Warnings.mem_addAll]
  exact .inl hmem

namespace EditedAt

variable {logicalId : String} {document document' : Entries Node} {overrides : Parameters}

/-- Both templates are resolved with the same parameters and conditions. -/
theorem resolveDocument_eq (h : EditedAt logicalId document document') :
    resolveDocument document' overrides
      = Session.resolve (.start ((declaredParameters document).insertAll overrides.entries)
          (((document.get? "Conditions").bind Node.entries?).getD [])) (.map document') := by
  have hparameters : declaredParameters document' = declaredParameters document := by
    rw [declaredParameters, declaredParameters, h.2.get?_eq (by decide)]
  rw [resolveDocument, hparameters, h.2.get?_eq (by decide)]

/-- An edited template is resolved to a template with an edit at the same place. -/
theorem resolved (h : EditedAt logicalId document document')
    (hname : Intrinsic.ofName? logicalId = none)
    (hcycle : ¬ (resolveDocument document overrides).2.warnings.ReportsCycle)
    (hcycle' : ¬ (resolveDocument document' overrides).2.warnings.ReportsCycle) :
    ∃ root root' : Entries Node, (resolveDocument document overrides).1 = .map root ∧
      (resolveDocument document' overrides).1 = .map root' ∧
      root.AgreesBut "Resources" (fun a b => ∃ resources resources' : Entries Node,
        a = .map resources ∧ b = .map resources' ∧
          resources.AgreesBut logicalId (fun _ _ => True) resources') root' := by
  have hsettles := Session.settles_resolve hcycle
  rw [h.resolveDocument_eq] at hcycle' ⊢
  have hsettles' := Session.settles_resolve hcycle'
  have hroot : Intrinsic.ofName? "Resources" = none := rfl
  obtain ⟨root, hr, hentries⟩ :=
    hsettles.map (Node.intrinsic?_eq_none_of_mem_keys h.1 hroot) rfl
  obtain ⟨root', hr', hentries'⟩ :=
    hsettles'.map (Node.intrinsic?_eq_none_of_mem_keys (h.2.keys_eq ▸ h.1) hroot) rfl
  refine ⟨root, root', hr, hr', h.2.settles hentries hentries' ?_⟩
  -- What stands under `Resources` is a mapping with the logical id on either side.
  rintro _ _ x y ⟨resources, resources', rfl, rfl, hmem, hagrees⟩ hx hy
  obtain ⟨results, rfl, hresults⟩ := hx.map (Node.intrinsic?_eq_none_of_mem_keys hmem hname) rfl
  obtain ⟨results', rfl, hresults'⟩ :=
    hy.map (Node.intrinsic?_eq_none_of_mem_keys (hagrees.keys_eq ▸ hmem) hname) rfl
  exact ⟨results, results', rfl, rfl,
    hagrees.settles hresults hresults' fun _ _ _ _ _ _ _ => trivial⟩

theorem resolvedDefaults_eq (h : EditedAt logicalId document document')
    (hname : Intrinsic.ofName? logicalId = none)
    (hcycle : ¬ (resolveDocument document overrides).2.warnings.ReportsCycle)
    (hcycle' : ¬ (resolveDocument document' overrides).2.warnings.ReportsCycle) :
    resolvedDefaults document overrides = resolvedDefaults document' overrides := by
  obtain ⟨root, root', hr, hr', hagrees⟩ := h.resolved hname hcycle hcycle'
  have hglobals : root.get? "Globals" = root'.get? "Globals" := hagrees.get?_eq (by decide)
  rw [resolvedDefaults, resolvedDefaults, hr, hr']
  change FunctionDefaults.ofTemplate root = .ofTemplate root'
  rw [FunctionDefaults.ofTemplate, FunctionDefaults.ofTemplate, hglobals]

/-- The resources that are gone through are the same but for the edited one. -/
theorem without_inKeyOrder_eq (h : EditedAt logicalId document document')
    (hname : Intrinsic.ofName? logicalId = none)
    (hcycle : ¬ (resolveDocument document overrides).2.warnings.ReportsCycle)
    (hcycle' : ¬ (resolveDocument document' overrides).2.warnings.ReportsCycle) :
    (resolvedResources document overrides).inKeyOrder.without logicalId
      = (resolvedResources document' overrides).inKeyOrder.without logicalId := by
  obtain ⟨root, root', hr, hr', hagrees⟩ := h.resolved hname hcycle hcycle'
  rw [resolvedResources, resolvedResources, hr, hr']
  change ((((root.get? "Resources").bind entries?).getD []).inKeyOrder).without logicalId
    = ((((root'.get? "Resources").bind entries?).getD []).inKeyOrder).without logicalId
  rcases rel_cases hagrees.rel_get? with
    ⟨hnone, hnone'⟩ | ⟨_, _, hsome, hsome', resources, resources', rfl, rfl, hresources⟩
  · rw [hnone, hnone']
  · rw [hsome, hsome']
    exact hresources.without_inKeyOrder

end EditedAt

/-! ### What comes of the other resources -/

section

variable {logicalId : String} {resources resources' : Entries Node}

theorem without_specsOf {α : Type} (type : ResourceType)
    (spec : String → Entries Node → Collecting α) (resources : Entries Node) :
    (specsOf type spec resources).without logicalId
      = specsOf type spec (resources.without logicalId) := by
  refine filter_filterMap_of_key Prod.fst Prod.fst (fun key => decide (key ≠ logicalId))
    fun entry value hvalue => ?_
  split at hvalue
  · exact congrArg Prod.fst (Option.some.inj hvalue.symm)
  · exact nomatch hvalue

theorem without_layerSpecsOf (resources : Entries Node) :
    (layerSpecsOf resources).without logicalId = layerSpecsOf (resources.without logicalId) :=
  filter_filterMap_of_key Prod.fst Prod.fst (fun key => decide (key ≠ logicalId))
    fun _ _ => key_of_layerSpecsOf

theorem filter_filterMap_functionOf? (defaults : FunctionDefaults) (layers : Bindings LayerSpec)
    (resources : Entries Node) :
    (resources.filterMap fun entry => functionOf? defaults layers entry.1 entry.2).filter
        (·.logicalId ≠ logicalId)
      = (resources.without logicalId).filterMap fun entry =>
          functionOf? defaults layers entry.1 entry.2 := by
  refine filter_filterMap_of_key Prod.fst FunctionSpec.logicalId
    (fun key => decide (key ≠ logicalId)) fun entry function hfunction => ?_
  obtain ⟨told, he⟩ := extracts_of_functionOf? hfunction
  exact he.logicalId_eq

/-- Of resources that agree but for one that is no layer the layers are the same. -/
theorem collectLayers_eq_of_without_eq
    (h : resources.inKeyOrder.without logicalId = resources'.inKeyOrder.without logicalId)
    (hlayer : (collectLayers resources).get? logicalId = none)
    (hlayer' : (collectLayers resources').get? logicalId = none) :
    collectLayers resources = collectLayers resources' := by
  refine Bindings.ext_get? fun other => ?_
  by_cases hne : other = logicalId
  · rw [hne, hlayer, hlayer']
  · rw [collectLayers_get?, collectLayers_get?, ← Entries.get?_without _ hne,
      without_layerSpecsOf, h, ← without_layerSpecsOf, Entries.get?_without _ hne]

end

/-- The fingerprint under a logical id, of functions with different ones, is found among
    the functions with logical ids other than some other one. -/
theorem Compilation.fingerprints_get? {compilation : Compilation} {logicalId other : String}
    (hd : (compilation.functions.map (·.logicalId)).Nodup) (hne : other ≠ logicalId) :
    compilation.fingerprints.functions.get? other
      = Entries.get? other ((compilation.functions.filter (·.logicalId ≠ logicalId)).map
          fun function => (function.logicalId, function.fingerprint digestText)) := by
  let pairs : Entries String := compilation.functions.map fun function =>
    (function.logicalId, function.fingerprint digestText)
  have hdistinct : pairs.Distinct := FunctionSpec.distinct_map_logicalId hd _
  have hfilter : pairs.without logicalId
      = (compilation.functions.filter (·.logicalId ≠ logicalId)).map
          fun function => (function.logicalId, function.fingerprint digestText) :=
    List.filter_map
  rw [← hfilter, Entries.get?_without _ hne]
  exact (Bindings.get?_insertAll .empty hdistinct other).trans (Option.or_none ..)

section

variable {logicalId : String} {document document' : Entries Node} {overrides : Parameters}
  {compilation compilation' : Compilation}

/-- An edit of one resource that is no layer, in templates that meet no cycle, shows in
    nothing that comes of the other resources: neither in the functions and their
    fingerprints nor in the tables, buckets and layers. -/
theorem compileDocument_of_edited (h : EditedAt logicalId document document')
    (hname : Intrinsic.ofName? logicalId = none)
    (hlayer : (collectLayers (resolvedResources document overrides)).get? logicalId = none)
    (hlayer' : (collectLayers (resolvedResources document' overrides)).get? logicalId = none)
    (hc : compileDocument document overrides = .ok compilation)
    (hc' : compileDocument document' overrides = .ok compilation')
    (hcycle : ¬ compilation.ReportsCycle) (hcycle' : ¬ compilation'.ReportsCycle) :
    compilation.functions.filter (·.logicalId ≠ logicalId)
        = compilation'.functions.filter (·.logicalId ≠ logicalId) ∧
      (compilation.resources.tables = (collectedTables document overrides).map (·.2) ∧
        compilation'.resources.tables = (collectedTables document' overrides).map (·.2) ∧
        (collectedTables document overrides).without logicalId
          = (collectedTables document' overrides).without logicalId) ∧
      (compilation.resources.buckets = (collectedBuckets document overrides).map (·.2) ∧
        compilation'.resources.buckets = (collectedBuckets document' overrides).map (·.2) ∧
        (collectedBuckets document overrides).without logicalId
          = (collectedBuckets document' overrides).without logicalId) ∧
      compilation.resources.layers = compilation'.resources.layers ∧
      ∀ other ≠ logicalId, compilation.fingerprints.functions.get? other
        = compilation'.fingerprints.functions.get? other := by
  have hcollected := compileDocument_collectedFrom hc
  have hcollected' := compileDocument_collectedFrom hc'
  have hquiet := fun hr => hcycle (hcollected.reportsCycle hr)
  have hquiet' := fun hr => hcycle' (hcollected'.reportsCycle hr)
  have hresources := h.without_inKeyOrder_eq hname hquiet hquiet'
  have hdefaults := h.resolvedDefaults_eq hname hquiet hquiet'
  have hlayers := collectLayers_eq_of_without_eq hresources hlayer hlayer'
  have hfunctions : compilation.functions.filter (·.logicalId ≠ logicalId)
      = compilation'.functions.filter (·.logicalId ≠ logicalId) := by
    rw [hcollected.functions_eq, hcollected'.functions_eq,
      FunctionSpec.inNameOrder_filter (nodup_collectedFunctions document overrides),
      FunctionSpec.inNameOrder_filter (nodup_collectedFunctions document' overrides),
      collectedFunctions, collectedFunctions, filter_filterMap_functionOf?,
      filter_filterMap_functionOf?, hresources, hdefaults, hlayers]
  refine ⟨hfunctions, ⟨hcollected.tables_eq, hcollected'.tables_eq, ?_⟩,
    ⟨hcollected.buckets_eq, hcollected'.buckets_eq, ?_⟩, ?_, fun other hne => ?_⟩
  · rw [collectedTables, collectedTables, without_specsOf, without_specsOf, hresources]
  · rw [collectedBuckets, collectedBuckets, without_specsOf, without_specsOf, hresources]
  · rw [hcollected.layers_eq, hcollected'.layers_eq, hlayers]
  · rw [Compilation.fingerprints_get? hcollected.nodup_logicalIds hne,
      Compilation.fingerprints_get? hcollected'.nodup_logicalIds hne, hfunctions]

end

/-- The template `staged` with a bucket whose name is a choice without values. -/
def stagedAnew : Entries Node :=
  [("Conditions", .map [("Live", .call "Fn::Equals" (.seq [.call "Ref" (.str "A"), .str "A"]))]),
    ("Resources", .map [
      ("Resize", .map [
        ("Type", .str "AWS::Serverless::Function"),
        ("Properties", .map [
          ("ImageUri", .call "Fn::If" (.seq [.str "Live", .str "resize:1", .str "resize:2"]))])]),
      ("Files", .map [
        ("Type", .str "AWS::S3::Bucket"),
        ("Properties", .map [("BucketName", .call "Fn::If" (.seq [.str "Live"]))])])])]

theorem staged_editedAt : EditedAt "Files" staged stagedAnew := by
  refine ⟨by decide, .cons ⟨rfl, rfl⟩ (.cons ⟨rfl, _, _, rfl, rfl, by decide, ?_⟩ .nil)⟩
  exact .cons ⟨rfl, rfl⟩ (.cons ⟨rfl, trivial⟩ .nil)

theorem compileDocument_stagedAnew :
    ∃ compilation compilation', compileDocument staged .empty = .ok compilation ∧
      compileDocument stagedAnew .empty = .ok compilation' ∧
      compilation.resources ≠ compilation'.resources ∧
      compilation.warnings ≠ compilation'.warnings ∧
      compilation.fingerprints.functions.get? "Resize"
        = compilation'.fingerprints.functions.get? "Resize" := by
  have hlayer : (collectLayers (resolvedResources staged .empty)).get? "Files" = none := by decide
  have hlayer' : (collectLayers (resolvedResources stagedAnew .empty)).get? "Files" = none := by
    decide
  obtain ⟨-, -, -, -, hfingerprints⟩ := compileDocument_of_edited staged_editedAt rfl hlayer hlayer'
    rfl rfl (by decide) (by decide)
  exact ⟨_, _, rfl, rfl, by decide, by decide, hfingerprints "Resize" (by decide)⟩

end SamTemplate
