import SamTemplate.Proofs.ExtractionAlike

/-!
# Extraction in another order

What is extracted from a resolved template does not depend on the order of entries:
properties are looked up by key, resources and events are put in the order of their
keys before they are gone through, and the text and the JSON of a container have the
keys in order. So each step of the extraction is the same computation on mappings
that are shuffled and on nodes that are alike.

* `Alike.Shuffled.propertiesAlike`: the properties of a resource;
* `Alike.Shuffled.extract_eq`: the extraction as a whole;
* `Alike.Shuffled.declaredParameters_eq`: the parameters that a template declares.
-/

namespace SamTemplate

open Node

/-- Defaults of functions that differ at most in the order of entries in the layers,
    which are kept as they are written. -/
structure FunctionDefaults.Alike (a b : FunctionDefaults) : Prop where
  layers : Option.Rel (List.Forall₂ Node.Alike) a.layers b.layers
  others : { a with layers := none } = { b with layers := none }

namespace Node.Alike

variable {a b : Node} {entries entries' : Entries Node}

namespace Shuffled

/-- A mapping without entries has no order. -/
theorem nil : Shuffled [] [] := ⟨List.nodup_nil, [], .refl _, .nil⟩

/-! ### Properties -/

/-- The text of a property is the same, also where it has entries of its own: it has its
    keys in order. -/
theorem mapText_eq (h : Shuffled entries entries') (key : String) :
    (entries.get? key).map text = (entries'.get? key).map text :=
  rel_map_eq (h.get? key) fun _ _ h => h.text_eq

theorem textUnder_eq (h : Shuffled entries entries') (key fallback : String) :
    textUnder entries key fallback = textUnder entries' key fallback :=
  congrArg (·.getD fallback) (rel_map_eq (h.given? key) fun _ _ h => by
    rw [textOr, textOr, h.text_eq])

theorem trimmedUnder_eq (h : Shuffled entries entries') (key : String) :
    trimmedUnder entries key = trimmedUnder entries' key := by
  rw [trimmedUnder, trimmedUnder, h.mapText_eq]

theorem givenTexts_eq (h : Shuffled entries entries') (key : String) :
    (Node.given? entries key).map texts = (Node.given? entries' key).map texts :=
  rel_map_eq (h.given? key) fun _ _ h => h.texts_eq

/-- A property that is read as a record is read from its JSON, which has its keys in
    order, and what is noted of a misfit tells of that JSON. -/
theorem readProperty_eq {α : Type} (h : Shuffled entries entries') (read : Reader α)
    (owner logicalId key : String) :
    readProperty read owner logicalId entries key
      = readProperty read owner logicalId entries' key := by
  have hgiven := h.given? key
  unfold readProperty
  -- The nodes are all that the two sides differ in.
  generalize Node.given? entries key = node at hgiven ⊢
  generalize Node.given? entries' key = node' at hgiven ⊢
  cases hgiven with
  | none => rfl
  | some hnode => simp only [hnode.toJson_eq]

end Shuffled

/-- The properties of a resource are shuffled with it. -/
theorem properties? (h : Alike a b) : Option.Rel Shuffled (properties? a) (properties? b) :=
  rel_bind (h.field? "Properties") fun _ _ h => h.entries?

/-- The type of a resource is a text. -/
theorem type_eq (h : Alike a b) : ResourceType.of? a = ResourceType.of? b := by
  have htext : (a.field? "Type").map text = (b.field? "Type").map text :=
    rel_map_eq (h.field? "Type") fun _ _ h => h.text_eq
  rw [ResourceType.of?, ResourceType.of?, htext]

namespace Shuffled

/-! ### Layers, tables and buckets -/

theorem layerSpec_eq (h : Shuffled entries entries') (logicalId : String) :
    layerSpec logicalId entries = layerSpec logicalId entries' := by
  simp only [layerSpec, h.textUnder_eq, h.givenTexts_eq]

theorem tableSpec_eq (h : Shuffled entries entries') (logicalId : String) :
    tableSpec logicalId entries = tableSpec logicalId entries' := by
  simp only [tableSpec, h.readProperty_eq, h.textUnder_eq]

theorem bucketSpec_eq (h : Shuffled entries entries') (logicalId : String) :
    bucketSpec logicalId entries = bucketSpec logicalId entries' := by
  simp only [bucketSpec, h.readProperty_eq, h.textUnder_eq]

end Shuffled

/-! ### Settings of functions -/

/-- An event is told by the texts of its properties. -/
theorem event?_eq (h : Alike a b) : event? a = event? b :=
  rel_bind_eq h.properties? fun properties properties' hp =>
    rel_bind_eq (h.get? "Type") fun type type' ht => by
      simp only [ht.text_eq, hp.mapText_eq]

/-- Events come in the order of their keys. -/
theorem eventsOf_eq (h : Alike a b) : eventsOf a = eventsOf b :=
  filterMap_eq_of_forall₂ (rel_getD h.entries? Shuffled.nil).inKeyOrder fun _ _ hpair =>
    hpair.2.event?_eq

/-- A reference to a layer is a text, or the text under `Ref`. -/
theorem layerId?_eq (h : Alike a b) : layerId? a = layerId? b := by
  have href := rel_map_eq (h.get? "Ref") fun _ _ h => h.text_eq
  cases h.view with
  | str => rfl
  | _ => exact href

/-- The layers of a function come in the order of its references, which is that of a list. -/
theorem layersOf_eq {references references' : List Node}
    (h : List.Forall₂ Alike references references') (layers : Bindings LayerSpec) :
    layersOf references layers = layersOf references' layers :=
  filterMap_eq_of_forall₂ h fun _ _ h => by rw [h.layerId?_eq]

theorem updateTrigger?_eq (h : Alike a b) : updateTrigger? a = updateTrigger? b :=
  congrArg (·.filter fun text => text ≠ "") (rel_map_eq (h.field? "UpdateRuntimeOn") fun _ _ h =>
    h.text_eq)

/-- The variables of an environment are a map of texts, in the order of names. -/
theorem environmentVariables_eq (h : Alike a b) :
    environmentVariables a = environmentVariables b := by
  have hs := (rel_getD h.entries? Shuffled.nil).ofList_eq (f := fun node => some node.text)
    (g := fun node => some node.text) fun _ _ h => congrArg some h.text_eq
  simp only [Option.map_some, List.filterMap_eq_map'] at hs
  exact hs

/-! ### Functions -/

variable {defaults defaults' : FunctionDefaults}

namespace Shuffled

/-- Settings for all functions are texts, numbers and maps of them, but for the layers,
    whose references are kept as they are written. -/
theorem functionDefaults_ofSettings (h : Shuffled entries entries') :
    (FunctionDefaults.ofSettings entries).Alike (.ofSettings entries') := by
  have hint (key : String) :
      ((Node.given? entries key).map fun node => node.int?.getD 0)
        = (Node.given? entries' key).map fun node => node.int?.getD 0 :=
    rel_map_eq (h.given? key) fun _ _ h => by rw [h.int?_eq]
  have htext (key : String) : (Node.given? entries key).map text
      = (Node.given? entries' key).map text :=
    rel_map_eq (h.given? key) fun _ _ h => h.text_eq
  have htrigger : (Node.given? entries "RuntimeManagementConfig").bind updateTrigger?
      = (Node.given? entries' "RuntimeManagementConfig").bind updateTrigger? :=
    rel_bind_eq (h.given? _) fun _ _ h => h.updateTrigger?_eq
  have henvironment :
      ((Node.given? entries "Environment").bind (·.field? "Variables")).map environmentVariables
        = ((Node.given? entries' "Environment").bind (·.field? "Variables")).map
          environmentVariables :=
    rel_map_eq (rel_bind (h.given? _) fun _ _ h => h.field? _) fun _ _ h =>
      h.environmentVariables_eq
  refine ⟨rel_map (h.given? "Layers") fun _ _ h => h.items, ?_⟩
  simp only [FunctionDefaults.ofSettings, hint, htext, htrigger, henvironment, h.givenTexts_eq]

theorem functionDefaults_ofTemplate (h : Shuffled entries entries') :
    (FunctionDefaults.ofTemplate entries).Alike (.ofTemplate entries') := by
  have hsettings := rel_bind (rel_bind (h.get? "Globals") fun _ _ h => h.field? "Function")
    fun _ _ h => h.entries?
  unfold FunctionDefaults.ofTemplate
  generalize ((entries.get? "Globals").bind _).bind _ = settings at hsettings ⊢
  generalize ((entries'.get? "Globals").bind _).bind _ = settings' at hsettings ⊢
  cases hsettings with
  -- Without settings for all functions both sides have the defaults that are built in.
  | none => exact ⟨.none, rfl⟩
  | some hs => exact hs.functionDefaults_ofSettings

theorem environmentOf_eq (h : Shuffled entries entries') (defaults : Bindings String) :
    environmentOf defaults entries = environmentOf defaults entries' := by
  have hown := rel_bind (h.get? "Environment") fun _ _ h => h.field? "Variables"
  unfold environmentOf
  generalize (entries.get? "Environment").bind _ = own at hown ⊢
  generalize (entries'.get? "Environment").bind _ = own' at hown ⊢
  cases hown with
  | none => rfl
  | some hown => simp only [hown.environmentVariables_eq]

theorem scalingOf_eq (h : Shuffled entries entries') : scalingOf entries = scalingOf entries' := by
  have hmax := rel_bind_eq (h.get? "ReservedConcurrentExecutions") fun _ _ h => h.int?_eq
  have hmin := rel_bind_eq (rel_bind (h.get? "ProvisionedConcurrencyConfig")
    fun _ _ h => h.get? "ProvisionedConcurrentExecutions") fun _ _ h => h.int?_eq
  simp only [scalingOf, hmax, hmin]

/-- What a function is read to besides its package, its events and its runtime
    management is put together from settings that do not depend on the order of entries. -/
theorem functionSpec_eq (h : Shuffled entries entries') (hd : defaults.Alike defaults')
    (logicalId : String) (packaging : Packaging) (events : List Event)
    (management : Option RuntimeManagement) :
    functionSpec logicalId entries defaults packaging events management
      = functionSpec logicalId entries' defaults' packaging events management := by
  have hint (key : String) : (Node.given? entries key).bind int?
      = (Node.given? entries' key).bind int? :=
    rel_bind_eq (h.given? key) fun _ _ h => h.int?_eq
  have htimeout := congrArg FunctionDefaults.timeout hd.others
  have hmemory := congrArg FunctionDefaults.memorySize hd.others
  have henvironment := congrArg FunctionDefaults.environment hd.others
  have harchitectures := congrArg FunctionDefaults.architectures hd.others
  dsimp only at htimeout hmemory henvironment harchitectures
  simp only [functionSpec, h.textUnder_eq, h.environmentOf_eq, h.givenTexts_eq, h.scalingOf_eq,
    hint, htimeout, hmemory, henvironment, harchitectures]

/-- The layers of a package of code are those of the function, or those for all functions. -/
theorem codePackage_eq (h : Shuffled entries entries') (hd : defaults.Alike defaults')
    (layers : Bindings LayerSpec) :
    codePackage entries defaults layers = codePackage entries' defaults' layers := by
  have hruntime := congrArg FunctionDefaults.runtime hd.others
  have hhandler := congrArg FunctionDefaults.handler hd.others
  dsimp only at hruntime hhandler
  -- The references of the layers are only alike, not the same, until they are looked up.
  have hitems := rel_getD (rel_map (h.given? "Layers") fun _ _ h => h.items)
    (rel_getD hd.layers .nil)
  simp only [codePackage, h.textUnder_eq, hruntime, hhandler, layersOf_eq hitems]

/-- A function is the same with its error, should it have one. -/
theorem serverlessFunction_eq (h : Shuffled entries entries') (hd : defaults.Alike defaults')
    (logicalId : String) (layers : Bindings LayerSpec) :
    serverlessFunction logicalId entries defaults layers
      = serverlessFunction logicalId entries' defaults' layers := by
  have hevents : (entries.get? "Events").map eventsOf = (entries'.get? "Events").map eventsOf :=
    rel_map_eq (h.get? "Events") fun _ _ h => h.eventsOf_eq
  have htrigger : (entries.get? "RuntimeManagementConfig").bind updateTrigger?
      = (entries'.get? "RuntimeManagementConfig").bind updateTrigger? :=
    rel_bind_eq (h.get? _) fun _ _ h => h.updateTrigger?_eq
  -- The trigger for all functions counts where the function has none of its own.
  have hupdate := congrArg FunctionDefaults.updateRuntimeOn hd.others
  dsimp only at hupdate
  simp only [serverlessFunction, h.mapText_eq, h.trimmedUnder_eq, h.textUnder_eq, hevents,
    htrigger, hupdate, h.functionSpec_eq hd, h.codePackage_eq hd]

theorem lambdaImage?_eq (h : Shuffled entries entries') :
    lambdaImage? entries = lambdaImage? entries' := by
  have hcode := rel_getD (rel_bind (h.get? "Code") fun _ _ h => h.entries?) Shuffled.nil
  simp only [lambdaImage?, h.trimmedUnder_eq, hcode.trimmedUnder_eq]

theorem lambdaFunction_eq (h : Shuffled entries entries') (hd : defaults.Alike defaults')
    (logicalId uri : String) :
    lambdaFunction logicalId entries defaults uri
      = lambdaFunction logicalId entries' defaults' uri := by
  simp only [lambdaFunction, h.textUnder_eq, h.functionSpec_eq hd]

/-- So all that is extracted from properties is the same. -/
theorem propertiesAlike (h : Shuffled entries entries') (hd : defaults.Alike defaults') :
    PropertiesAlike defaults defaults' entries entries' where
  layer := h.layerSpec_eq
  table := h.tableSpec_eq
  bucket := h.bucketSpec_eq
  serverless := h.serverlessFunction_eq hd
  lambdaImage := h.lambdaImage?_eq
  lambda := h.lambdaFunction_eq hd

end Shuffled

theorem resourceAlike (h : Alike a b) (hd : defaults.Alike defaults') :
    ResourceAlike defaults defaults' a b where
  type_eq := h.type_eq
  properties := rel_imp h.properties? fun _ _ hp => hp.propertiesAlike hd

/-! ### Templates -/

namespace Shuffled

variable {root root' resources resources' : Entries Node}

/-- The extraction does not depend on the order of entries. -/
theorem extract_eq (hroot : Shuffled root root') (h : Shuffled resources resources') :
    extract root resources = extract root' resources' :=
  extract_eq_of_alike (h.inKeyOrder.imp fun _ _ hpair =>
    ⟨hpair.1, hpair.2.resourceAlike hroot.functionDefaults_ofTemplate⟩)

/-- Nor do the parameters that a template declares. -/
theorem declaredParameters_eq (h : Shuffled root root') :
    declaredParameters root = declaredParameters root' := by
  have hdeclared := rel_getD (rel_bind (h.get? "Parameters") fun _ _ h => h.entries?) Shuffled.nil
  have hs := hdeclared.ofList_eq (f := fun declaration => (declaration.field? "Default").map text)
    (g := fun declaration => (declaration.field? "Default").map text) fun _ _ h =>
      rel_map_eq (h.field? "Default") fun _ _ h => h.text_eq
  simp only [Option.map_map] at hs
  exact hs

end Shuffled

end Node.Alike

end SamTemplate
