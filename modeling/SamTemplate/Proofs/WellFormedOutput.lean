import SamTemplate.Proofs.ByteOrder
import SamTemplate.Proofs.EmittedFunctions
import SamTemplate.Proofs.Keys
import SamTemplate.Proofs.TextShapes

/-!
# Well-formed output

What holds of every compilation that is given, whatever the template: functions stand
in a strict order and have different logical ids, names are not empty, paths end with a
slash, the layers of functions are those of the compilation, images have a reference of
their own, events say what starts them, and no notice comes twice
(`Compilation.WellFormed`).

* `Emits.sound`, `layerSpec_sound`, `event?_sound`: what holds of each part by itself;
* `compile_wellFormed`: what holds of the whole.
-/

namespace SamTemplate

/-! ### Events -/

/-- An event says what starts the function. -/
def Event.Sound : Event → Prop
  | .api path method => path ≠ "" ∧ method ≠ ""
  | .schedule expression _ => expression ≠ ""

theorem event?_sound {node : Node} {event : Event} (h : event? node = some event) :
    event.Sound := by
  unfold event? at h
  obtain ⟨properties, -, h⟩ := Option.bind_eq_some_iff.1 h
  obtain ⟨type, -, h⟩ := Option.bind_eq_some_iff.1 h
  split at h
  · split at h
    · exact nomatch h
    · rename_i hor
      obtain ⟨hpath, hmethod⟩ := not_or.1 hor
      obtain rfl := Option.some.inj h
      exact ⟨hpath, lowerCase_ne_empty hmethod⟩
  · split at h
    · split at h
      · exact nomatch h
      · rename_i hexpression
        obtain rfl := Option.some.inj h
        exact hexpression
    · exact nomatch h

theorem events_sound (kind : FunctionKind) (properties : Entries Node) :
    ∀ event ∈ kind.events properties, event.Sound := by
  intro event hmem
  cases kind with
  | lambda => exact nomatch hmem
  | serverless =>
    change event ∈ ((properties.get? "Events").map eventsOf).getD [] at hmem
    rcases hevents : properties.get? "Events" with _ | events
    · rw [hevents] at hmem
      exact nomatch hmem
    · rw [hevents] at hmem
      obtain ⟨entry, -, he⟩ := List.mem_filterMap.1 hmem
      exact event?_sound he

/-! ### Layers -/

/-- A layer has a name, and its content is a folder. -/
structure LayerSpec.Sound (layer : LayerSpec) : Prop where
  name_ne_empty : layer.name ≠ ""
  contentUri : IsFolder layer.contentUri

theorem layerSpec_sound {logicalId : String} (h : logicalId ≠ "") (properties : Entries Node) :
    (layerSpec logicalId properties).Sound where
  name_ne_empty := textUnder_ne_empty h
  contentUri := isFolder_withTrailingSlash (textUnder_ne_empty (by decide))

/-- What is bound to a key is among the values. -/
theorem mem_values_of_get? {α : Type} {bindings : Bindings α} {key : String} {value : α}
    (h : bindings.get? key = some value) : value ∈ bindings.values :=
  List.mem_map.2 ⟨(key, value), Entries.mem_of_get? h, rfl⟩

/-- Layers that are referred to are among those that are known. -/
theorem mem_values_of_mem_layersOf {references : List Node} {layers : Bindings LayerSpec}
    {layer : LayerSpec} (h : layer ∈ layersOf references layers) : layer ∈ layers.values := by
  obtain ⟨reference, -, h⟩ := List.mem_filterMap.1 h
  obtain ⟨id, -, h⟩ := Option.bind_eq_some_iff.1 h
  split at h
  · exact nomatch h
  · exact mem_values_of_get? h

/-- Every layer is that of a resource, of the key of which it has its name. -/
theorem exists_of_mem_collectLayers {resources : Entries Node} {layer : LayerSpec}
    (h : layer ∈ (collectLayers resources).values) :
    ∃ logicalId resource properties, (logicalId, resource) ∈ resources ∧
      layer = layerSpec logicalId properties := by
  obtain ⟨⟨key, value⟩, hmem, rfl⟩ := List.mem_map.1 h
  have hget : (collectLayers resources).get? key = some value :=
    (Entries.get?_eq_some_iff (collectLayers resources).sorted.distinct).2 hmem
  rw [collectLayers_get?] at hget
  obtain ⟨⟨logicalId, resource⟩, hresource, hlayer⟩ :=
    List.mem_filterMap.1 (Entries.mem_of_get? hget)
  split at hlayer
  · obtain ⟨properties, -, heq⟩ := Option.map_eq_some_iff.1 hlayer
    obtain ⟨rfl, rfl⟩ := Prod.mk.inj heq
    exact ⟨_, resource, properties,
      Bindings.mem_of_get?_ofList (mem_inKeyOrder_iff.1 hresource), rfl⟩
  · exact nomatch hlayer

/-! ### Functions -/

/-- What holds of a function by the way it is shipped. -/
def Packaging.Sound (layers : List LayerSpec) : Packaging → Prop
  | .zip code => IsFolder code.codeUri ∧ ∀ layer ∈ code.layers, layer ∈ layers
  | .image package => package.imageSource ≠ "" ∧ IsTrimmed package.imageSource ∧
      contains package.imageSource "$\x7b" = false

/-- What holds of a function in a compilation with these layers. -/
structure FunctionSpec.Sound (layers : List LayerSpec) (function : FunctionSpec) : Prop where
  name_ne_empty : function.name ≠ ""
  packaging : function.packaging.Sound layers
  /-- An image brings its own runtime. -/
  runtimeManagement : function.isImage = true → function.runtimeManagement = none
  events : ∀ event ∈ function.events, event.Sound

theorem Emits.sound {defaults : FunctionDefaults} {layers : Bindings LayerSpec} {logicalId : String}
    {resource : Node} {function : FunctionSpec}
    (h : Emits defaults layers logicalId resource function) (hid : logicalId ≠ "") :
    function.Sound layers.values := by
  rcases h with ⟨hd, hmode, husable⟩ | ⟨hd, hmode⟩
  · -- The reference to an image was trimmed before it was checked.
    obtain ⟨hne, htoken⟩ := not_or.1 husable
    refine ⟨textUnder_ne_empty hid, ⟨hne, ?_, Bool.eq_false_iff.2 htoken⟩, fun _ => rfl,
      events_sound _ _⟩
    rw [FunctionKind.imageUri_eq]
    exact isTrimmed_trim _
  · refine ⟨textUnder_ne_empty hid, ⟨?_, fun layer => mem_values_of_mem_layersOf⟩, nofun,
      events_sound .serverless _⟩
    exact isFolder_withTrailingSlash (textUnder_ne_empty (by decide))

/-- A function of the second type has no events. -/
theorem Emits.events_of_lambda {defaults : FunctionDefaults} {layers : Bindings LayerSpec}
    {logicalId : String} {resource : Node} {function : FunctionSpec}
    (h : Emits defaults layers logicalId resource function) (hkind : HasKind resource .lambda) :
    function.events = [] := by
  rcases h with ⟨hd, -, -⟩ | ⟨hd, -⟩
  · obtain rfl := hd.hasKind.unique hkind
    rfl
  · exact nomatch hd.hasKind.unique hkind

/-! ### Compilations -/

/-- A function stands before another one by the bytes of its name, or else by those of its
    logical id. -/
def FunctionSpec.BeforeInBytes (a b : FunctionSpec) : Prop :=
  utf8Bytes a.name < utf8Bytes b.name ∨
    (a.name = b.name ∧ utf8Bytes a.logicalId < utf8Bytes b.logicalId)

theorem FunctionSpec.beforeInBytes_iff {a b : FunctionSpec} : a.BeforeInBytes b ↔ a.Before b := by
  rw [BeforeInBytes, utf8Bytes_lt_utf8Bytes_iff, utf8Bytes_lt_utf8Bytes_iff]
  rfl

/-- What holds of a compilation whose functions come of these resources. -/
structure Compilation.WellFormed (resources : Entries Node) (compilation : Compilation) :
    Prop where
  /-- Functions stand in the order of their names, those of one name in that of their
      logical ids. -/
  sorted : compilation.functions.Pairwise FunctionSpec.BeforeInBytes
  nodup : (compilation.functions.map (·.logicalId)).Nodup
  functions : ∀ function ∈ compilation.functions, function.Sound compilation.resources.layers
  layers : ∀ layer ∈ compilation.resources.layers, layer.Sound
  events_of_lambda : ∀ function ∈ compilation.functions, ∀ resource,
    (Bindings.ofList resources).get? function.logicalId = some resource →
    HasKind resource .lambda → function.events = []
  warnings : compilation.warnings.Nodup

theorem Warnings.prefix_addAll (warnings : Warnings) (messages : List String) :
    warnings.messages <+: (warnings.addAll messages).messages := by
  induction messages generalizing warnings with
  | nil => exact List.prefix_rfl
  | cons message rest ih => exact (warnings.prefix_add message).trans (ih (warnings.add message))

section

variable {document : Entries Node} {overrides : Parameters} {compilation : Compilation}

/-- What is collected is well-formed if no resource has an empty logical id. -/
theorem CollectedFrom.wellFormed (h : CollectedFrom document overrides compilation)
    (hids : ∀ entry ∈ resolvedResources document overrides, entry.1 ≠ "") :
    compilation.WellFormed (resolvedResources document overrides) where
  sorted := by
    rw [h.functions_eq]
    exact (FunctionSpec.pairwise_inNameOrder (nodup_collectedFunctions document overrides)).imp
      FunctionSpec.beforeInBytes_iff.2
  nodup := h.nodup_logicalIds
  functions := by
    intro function hmem
    obtain ⟨resource, hget, he⟩ := h.exists_emits hmem
    rw [h.layers_eq]
    exact he.sound (hids _ (Bindings.mem_of_get?_ofList hget))
  layers := by
    intro layer hmem
    rw [h.layers_eq] at hmem
    obtain ⟨logicalId, resource, properties, hresource, rfl⟩ := exists_of_mem_collectLayers hmem
    exact layerSpec_sound (hids _ hresource) properties
  events_of_lambda := by
    intro function hmem resource hget hkind
    obtain ⟨resource', hget', he⟩ := h.exists_emits hmem
    obtain rfl := Option.some.inj (hget.symm.trans hget')
    exact he.events_of_lambda hkind
  warnings := by
    obtain ⟨told, hwarnings⟩ := h.warnings_eq
    rw [hwarnings]
    exact Warnings.nodup _

/-- The resources of a resolved template have the keys of mappings in the template. -/
theorem keys_ne_empty_of_resolved (h : (Node.map document).KeysAll (· ≠ "")) :
    ∀ entry ∈ resolvedResources document overrides, entry.1 ≠ "" := by
  have hroot : (resolveDocument document overrides).1.KeysAll (· ≠ "") :=
    Session.resolve_keysAll _ h
  intro entry hmem
  unfold resolvedResources at hmem
  rcases hr : (resolveDocument document overrides).1.get? "Resources" with _ | resources
  · rw [hr] at hmem
    exact nomatch hmem
  · rw [hr] at hmem
    have hresources := hroot.get? hr
    cases hresources with
    | map hkeys _ => exact hkeys entry hmem
    | _ => exact nomatch hmem

/-- Every compilation of a text is well-formed, and begins its notices with those of the
    resolution. -/
theorem compile_wellFormed {text : String} (h : compile text overrides = .ok compilation) :
    ∃ document, readDocument text = .ok document ∧
      compilation.WellFormed (resolvedResources document overrides) ∧
      (resolveDocument document overrides).2.warnings.messages <+: compilation.warnings := by
  obtain ⟨document, hread, hcollected⟩ := exists_collectedFrom_of_compile h
  have hkeys : ∀ entry ∈ resolvedResources document overrides, entry.1 ≠ "" :=
    keys_ne_empty_of_resolved (keysAll_of_readDocument hread)
  refine ⟨document, hread, hcollected.wellFormed hkeys, ?_⟩
  obtain ⟨told, hwarnings⟩ := hcollected.warnings_eq
  rw [hwarnings]
  exact Warnings.prefix_addAll _ told

end

/-- A template with a layer and a function that uses it. -/
def layered : String :=
  "Resources: \x7bL: \x7bType: AWS::Serverless::LayerVersion, Properties: \x7b\x7d\x7d, "
    ++ "F: \x7bType: AWS::Serverless::Function, Properties: \x7bLayers: [L]\x7d\x7d\x7d"

theorem compile_layered :
    ∃ compilation document, compile layered .empty = .ok compilation ∧
      compilation.functions.map (·.name) = ["F"] ∧
      compilation.resources.layers.map (·.contentUri) = ["./"] ∧
      compilation.WellFormed (resolvedResources document .empty) := by
  obtain ⟨compilation, hcompile, houtput⟩ := exists_of_map_toOption
    (show (compile layered .empty).toOption.map (fun compilation =>
        (compilation.functions.map (·.name), compilation.resources.layers.map (·.contentUri)))
      = some (["F"], ["./"]) by decide +kernel)
  obtain ⟨hnames, hlayers⟩ := Prod.mk.inj houtput
  obtain ⟨document, -, hwellFormed, -⟩ := compile_wellFormed hcompile
  exact ⟨compilation, document, hcompile, hnames, hlayers, hwellFormed⟩

end SamTemplate
