import SamTemplate.Compile
import SamTemplate.Proofs.Reordering

/-!
# Resources that are read alike

The extraction goes through the resources of a template and reads the properties of each by
itself. So templates whose resources stand under the same logical ids, have the same types and are
read the same, one by one (`ResourceAlike`), are extracted to the same output, with the same
notices.

* `extract_eq_of_alike`: from the readings of single properties to the extraction as a whole.
-/

namespace SamTemplate

open Node

/-- Properties that every type of resource reads the same from, under these defaults. -/
structure PropertiesAlike (defaults defaults' : FunctionDefaults)
    (properties properties' : Entries Node) : Prop where
  layer : ∀ logicalId, layerSpec logicalId properties = layerSpec logicalId properties'
  table : ∀ logicalId, tableSpec logicalId properties = tableSpec logicalId properties'
  bucket : ∀ logicalId, bucketSpec logicalId properties = bucketSpec logicalId properties'
  serverless : ∀ logicalId layers, serverlessFunction logicalId properties defaults layers
    = serverlessFunction logicalId properties' defaults' layers
  lambdaImage : lambdaImage? properties = lambdaImage? properties'
  lambda : ∀ logicalId uri, lambdaFunction logicalId properties defaults uri
    = lambdaFunction logicalId properties' defaults' uri

/-- Resources of the same type with properties that are read alike. -/
structure ResourceAlike (defaults defaults' : FunctionDefaults) (a b : Node) : Prop where
  type_eq : ResourceType.of? a = ResourceType.of? b
  properties : Option.Rel (PropertiesAlike defaults defaults') (properties? a) (properties? b)

theorem ResourceAlike.refl (defaults : FunctionDefaults) (a : Node) :
    ResourceAlike defaults defaults a a where
  type_eq := rfl
  properties := by
    cases properties? a with
    | none => exact .none
    | some properties =>
      exact .some ⟨fun _ => rfl, fun _ => rfl, fun _ => rfl, fun _ _ => rfl, rfl, fun _ _ => rfl⟩

variable {defaults defaults' : FunctionDefaults} {a b : Node} {resources resources' : Entries Node}

/-- The layers are collected from the readings of single resources. -/
theorem collectLayers_eq_of_alike
    (h : List.Forall₂ (OnValues (ResourceAlike defaults defaults')) resources.inKeyOrder
      resources'.inKeyOrder) : collectLayers resources = collectLayers resources' := by
  refine congrArg Bindings.ofList (filterMap_eq_of_forall₂ h fun pair pair' hpair => ?_)
  obtain ⟨id, resource⟩ := pair
  obtain ⟨id', resource'⟩ := pair'
  obtain ⟨rfl, hresource⟩ := hpair
  dsimp only at hresource ⊢
  rw [hresource.type_eq, rel_map_eq hresource.properties fun _ _ hp => by rw [hp.layer id]]

/-- Tables and buckets are collected from the readings, with what is noted of them. -/
theorem collectBackingFrom_eq_of_alike
    (h : List.Forall₂ (OnValues (ResourceAlike defaults defaults')) resources resources') :
    collectBackingFrom resources = collectBackingFrom resources' := by
  induction h with
  | nil => rfl
  | @cons pair pair' _ _ hpair _ ih =>
    obtain ⟨id, resource⟩ := pair
    obtain ⟨id', resource'⟩ := pair'
    obtain ⟨rfl, hresource⟩ := hpair
    dsimp only at hresource
    -- The type decides what is read, and so it is compared before the properties are.
    simp only [collectBackingFrom, ih, hresource.type_eq]
    rcases rel_cases hresource.properties with ⟨hnone, hnone'⟩ | ⟨p, p', hsome, hsome', hp⟩
    · rw [hnone, hnone']
    · simp only [hsome, hsome', Option.getD_some, hp.table, hp.bucket]

/-- A resource of either type of functions gives the same function, or the same error. -/
theorem function?_eq_of_alike (h : ResourceAlike defaults defaults' a b)
    (layers : Bindings LayerSpec) (logicalId : String) :
    function? defaults layers logicalId a = function? defaults' layers logicalId b := by
  have hproperties := h.properties
  unfold function?
  rw [h.type_eq]
  generalize properties? a = properties at hproperties ⊢
  generalize properties? b = properties' at hproperties ⊢
  cases hproperties with
  | none => rfl
  | some hp => simp only [hp.serverless, hp.lambdaImage, hp.lambda]

theorem collectFunctionsFrom_eq_of_alike
    (h : List.Forall₂ (OnValues (ResourceAlike defaults defaults')) resources resources')
    (layers : Bindings LayerSpec) :
    collectFunctionsFrom defaults layers resources
      = collectFunctionsFrom defaults' layers resources' := by
  induction h with
  | nil => rfl
  | @cons pair pair' _ _ hpair _ ih =>
    obtain ⟨id, resource⟩ := pair
    obtain ⟨id', resource'⟩ := pair'
    obtain ⟨rfl, hresource⟩ := hpair
    dsimp only at hresource
    simp only [collectFunctionsFrom, function?_eq_of_alike hresource, ih]

/-- Resources that are read alike, one by one, are extracted to the same. -/
theorem extract_eq_of_alike {root root' : Entries Node}
    (h : List.Forall₂ (OnValues (ResourceAlike (.ofTemplate root) (.ofTemplate root')))
      resources.inKeyOrder resources'.inKeyOrder) :
    extract root resources = extract root' resources' := by
  simp only [extract, collectBacking, collectFunctions, collectLayers_eq_of_alike h,
    collectBackingFrom_eq_of_alike h, collectFunctionsFrom_eq_of_alike h]

end SamTemplate
