import SamTemplate.Proofs.CompiledFunctions
import SamTemplate.Proofs.EmittedFunctions

/-!
# Settings that take effect

Most settings of a function can be given for all functions at once, and each has its own
way of coming from the two places: variables are put together, the function's own first;
architectures and layers are taken from one place as a whole; a text counts if it is not
empty, a number if it can be read (`HasSettings`, `HasCode`).

* `textUnder_eq`, `environmentOf_eq`, `layersOf_selects`: one lemma for each way;
* `serverlessFunction_settings`: the settings of every function that is extracted.
-/

namespace SamTemplate

open Node

/-! ### Settings in the two places -/

/-- The text of a setting, if it is there and not empty. -/
def textOf? (settings : Entries Node) (key : String) : Option String :=
  ((settings.get? key).map Node.text).filter fun text => text ≠ ""

/-- A setting of a function, or else that of all functions; `null` gives none. -/
def settingOf? (properties globals : Entries Node) (key : String) : Option Node :=
  (given? properties key).or (given? globals key)

/-- The number that functions have unless they give their own. One that is given and cannot
    be read counts as zero. -/
def defaultNumber (globals : Entries Node) (key : String) (fallback : Int64) : Int64 :=
  match given? globals key with
  | some node => node.int?.getD 0
  | none => fallback

/-- The text that functions have unless they give their own. -/
def defaultText (globals : Entries Node) (key fallback : String) : String :=
  ((given? globals key).map Node.text).getD fallback

/-- The environment variables that are set by a mapping. -/
def variablesOf (settings : Entries Node) : Entries Node :=
  (((settings.get? "Environment").bind (·.get? "Variables")).bind Node.entries?).getD []

/-- What triggers an update of the runtime, if settings say so. -/
def triggerOf? (settings : Entries Node) : Option String :=
  ((settings.get? "RuntimeManagementConfig").bind Node.entries?).bind (textOf? · "UpdateRuntimeOn")

/-- A node refers to a layer by its logical id. -/
inductive RefersTo : Node → String → Prop
  | text (id : String) : RefersTo (.str id) id
  | reference {entries : Entries Node} {operand : Node} : entries.get? "Ref" = some operand →
      RefersTo (.map entries) operand.text

/-- The layers that are referred to, in the order of the references and as often. -/
inductive Selects (layers : Bindings LayerSpec) : List Node → List LayerSpec → Prop
  | nil : Selects layers [] []
  | known {node : Node} {nodes : List Node} {id : String} {layer : LayerSpec}
      {chosen : List LayerSpec} : RefersTo node id → id ≠ "" → layers.get? id = some layer →
      Selects layers nodes chosen → Selects layers (node :: nodes) (layer :: chosen)
  /-- What refers to no layer that is known is left out. -/
  | dropped {node : Node} {nodes : List Node} {chosen : List LayerSpec} :
      (∀ id, RefersTo node id → id = "" ∨ layers.get? id = none) →
      Selects layers nodes chosen → Selects layers (node :: nodes) chosen

/-- The settings of a function that do not depend on its packaging. -/
structure HasSettings (globals properties : Entries Node) (function : FunctionSpec) : Prop where
  environment : ∀ key, function.environment.get? key
    = (((variablesOf properties).get? key).or ((variablesOf globals).get? key)).map Node.text
  architectures : function.architectures
    = ((settingOf? properties globals "Architectures").map Node.texts).getD []
  timeout : function.timeout
    = ((properties.get? "Timeout").bind Node.int?).getD (defaultNumber globals "Timeout" 30)
  memorySize : function.memorySize
    = ((properties.get? "MemorySize").bind Node.int?).getD (defaultNumber globals "MemorySize" 128)

/-- The settings of a function that is shipped as an archive. -/
structure HasCode (globals properties : Entries Node) (layers : Bindings LayerSpec)
    (code : CodePackage) : Prop where
  runtime : code.runtime
    = (textOf? properties "Runtime").getD (defaultText globals "Runtime" "python3.12")
  handler : code.handler
    = (textOf? properties "Handler").getD
      (defaultText globals "Handler" "lambda_function.lambda_handler")
  codeUri : code.codeUri = withTrailingSlash ((textOf? properties "CodeUri").getD "./")
  layers : Selects layers (((settingOf? properties globals "Layers").map Node.items).getD [])
    code.layers

/-! ### The ways of coming from the two places -/

variable {globals properties : Entries Node} {layers : Bindings LayerSpec}

theorem textUnder_eq (properties : Entries Node) (key fallback : String) :
    textUnder properties key fallback = (textOf? properties key).getD fallback := by
  rw [textUnder, textOf?, given?]
  cases properties.get? key with
  | none => rfl
  | some node =>
    cases hn : node.isNull with
    | true => simp [Option.filter_some, hn, text_of_isNull hn]
    | false => by_cases ht : node.text = "" <;> simp [Option.filter_some, hn, textOr, ht]

/-- A number that can be read is not `null`. -/
theorem given?_bind_int? (properties : Entries Node) (key : String) :
    (given? properties key).bind Node.int? = (properties.get? key).bind Node.int? := by
  rw [given?]
  cases properties.get? key with
  | none => rfl
  | some node => cases node <;> rfl

theorem defaultNumber_eq (globals : Entries Node) (key : String) (fallback : Int64) :
    defaultNumber globals key fallback
      = ((given? globals key).map fun node => node.int?.getD 0).getD fallback := by
  rw [defaultNumber]
  cases given? globals key <;> rfl

/-- Mapping what is given at either place. -/
theorem map_settingOf?_getD {α : Type} (properties globals : Entries Node) (key : String)
    (f : Node → α) (fallback : α) :
    ((settingOf? properties globals key).map f).getD fallback
      = ((given? properties key).map f).getD (((given? globals key).map f).getD fallback) := by
  rw [settingOf?]
  cases given? properties key <;> rfl

theorem updateTrigger?_eq (settings : Entries Node) :
    (settings.get? "RuntimeManagementConfig").bind updateTrigger? = triggerOf? settings := by
  rw [triggerOf?, Option.bind_assoc]
  refine congrArg _ (funext fun config => ?_)
  cases config with
  | map entries =>
    rw [updateTrigger?, field?_eq_filter]
    rw [entries?, Option.bind_some, textOf?, Node.get?, entries?, Option.bind_some]
    cases Entries.get? "UpdateRuntimeOn" entries with
    | none => rfl
    | some node =>
      cases hn : node.isNull with
      | true => simp [Option.filter_some, hn, text_of_isNull hn]
      | false => simp [Option.filter_some, hn]
  | _ => rfl

/-- A value that is no mapping has no entries, and `null` neither. -/
theorem given?_bind {α : Type} (settings : Entries Node) (key : String) {f : Node → Option α}
    (hf : f .null = none) : (given? settings key).bind f = (settings.get? key).bind f := by
  rw [given?]
  cases settings.get? key with
  | none => rfl
  | some node => cases node <;> first | rfl | exact hf.symm

theorem variables_eq (settings : Entries Node) :
    (((settings.get? "Environment").bind (·.field? "Variables")).map environmentVariables).getD
        .empty
      = .ofList ((variablesOf settings).map fun pair => (pair.1, pair.2.text)) := by
  rw [variablesOf]
  cases settings.get? "Environment" with
  | none => rfl
  | some environment =>
    rw [Option.bind_some, Option.bind_some, field?_eq_filter]
    cases environment.get? "Variables" with
    | none => rfl
    | some vars => cases vars <;> rfl

/-- The variables of a function are bound on top of those for all functions. -/
theorem environmentOf_eq (base : Bindings String) (properties : Entries Node) :
    environmentOf base properties
      = base.insertAll (Bindings.ofList
          ((variablesOf properties).map fun pair => (pair.1, pair.2.text))).entries := by
  rw [← variables_eq, environmentOf]
  cases (properties.get? "Environment").bind (·.field? "Variables") <;> rfl

theorem get?_ofList_map_text {vars : Entries Node} (hd : vars.Distinct) (key : String) :
    (Bindings.ofList (vars.map fun pair => (pair.1, pair.2.text))).get? key
      = (vars.get? key).map Node.text := by
  have hkeys : Entries.Distinct (vars.map fun pair => (pair.1, pair.2.text)) := by
    rw [Entries.Distinct, Entries.keys, List.map_map]
    exact hd
  have hvalue : Entries.get? key (vars.map fun pair => (pair.1, pair.2.text))
      = (vars.get? key).map Node.text := by
    clear hd hkeys
    induction vars with
    | nil => rfl
    | cons pair rest ih =>
      rw [List.map_cons, Entries.get?_cons, Entries.get?_cons, ih]
      split <;> rfl
  rw [Bindings.ofList, Bindings.get?_insertAll _ hkeys, hvalue]
  exact Option.or_none ..

/-- A layer is referred to by its logical id, in a text or in a call. -/
theorem layerId?_eq_some_iff {node : Node} {id : String} :
    layerId? node = some id ↔ RefersTo node id := by
  constructor
  · intro h
    cases node with
    | str id =>
      cases h
      exact .text id
    | map entries =>
      obtain ⟨operand, hoperand, rfl⟩ := Option.map_eq_some_iff.1 h
      exact .reference hoperand
    | _ => exact nomatch h
  · rintro (_ | hoperand)
    · rfl
    · exact Option.map_eq_some_iff.2 ⟨_, hoperand, rfl⟩

/-- The layers that are looked up are those that are referred to. -/
theorem layersOf_selects (references : List Node) (layers : Bindings LayerSpec) :
    Selects layers references (layersOf references layers) := by
  induction references with
  | nil => exact .nil
  | cons node rest ih =>
    rw [layersOf, List.filterMap_cons, ← layersOf]
    cases hid : layerId? node with
    | none => exact .dropped (fun id h => nomatch hid.symm.trans (layerId?_eq_some_iff.2 h)) ih
    | some id =>
      have hrefers := layerId?_eq_some_iff.1 hid
      -- A node refers to one layer at most, which may be unknown.
      have honly {other : String} (h : RefersTo node other) : other = id :=
        Option.some.inj ((layerId?_eq_some_iff.2 h).symm.trans hid)
      by_cases hempty : id = ""
      · simpa [hempty] using .dropped (fun other h => .inl ((honly h).trans hempty)) ih
      · cases hlayer : layers.get? id with
        | none => simpa [hempty, hlayer] using .dropped (fun other h => .inr (honly h ▸ hlayer)) ih
        | some layer => simpa [hempty, hlayer] using .known hrefers hempty hlayer ih

/-! ### The settings of extracted functions -/

section

variable (logicalId : String) (packaging : Packaging) (events : List Event)
  (runtimeManagement : Option RuntimeManagement)

theorem functionSpec_timeout :
    (functionSpec logicalId properties (.ofSettings globals) packaging events
        runtimeManagement).timeout
      = ((properties.get? "Timeout").bind Node.int?).getD
        (defaultNumber globals "Timeout" 30) := by
  rw [← given?_bind_int?, defaultNumber_eq]
  rfl

theorem functionSpec_memorySize :
    (functionSpec logicalId properties (.ofSettings globals) packaging events
        runtimeManagement).memorySize
      = ((properties.get? "MemorySize").bind Node.int?).getD
        (defaultNumber globals "MemorySize" 128) := by
  rw [← given?_bind_int?, defaultNumber_eq]
  rfl

end

/-- A function has its own settings where it has any, and those for all functions elsewhere. -/
theorem functionSpec_hasSettings (logicalId : String) (packaging : Packaging) (events : List Event)
    (runtimeManagement : Option RuntimeManagement) (hown : (variablesOf properties).Distinct)
    (hglobals : (variablesOf globals).Distinct) :
    HasSettings globals properties (functionSpec logicalId properties
      (.ofSettings globals) packaging events runtimeManagement) where
  environment key := by
    change (environmentOf (FunctionDefaults.ofSettings globals).environment properties).get? key = _
    have hbase : (FunctionDefaults.ofSettings globals).environment
        = .ofList ((variablesOf globals).map fun pair => (pair.1, pair.2.text)) := by
      rw [← variables_eq, ← given?_bind globals "Environment" rfl]
      rfl
    rw [environmentOf_eq, hbase, Bindings.get?_insertAll _ (Bindings.ofList _).sorted.distinct,
      get?_ofList_map_text hglobals, Option.map_or, ← get?_ofList_map_text hown]
    rfl
  architectures := (map_settingOf?_getD properties globals "Architectures" Node.texts []).symm
  timeout := functionSpec_timeout ..
  memorySize := functionSpec_memorySize ..

theorem codePackage_hasCode (globals properties : Entries Node) (layers : Bindings LayerSpec) :
    HasCode globals properties layers (codePackage properties (.ofSettings globals) layers) where
  runtime := textUnder_eq ..
  handler := textUnder_eq ..
  codeUri := congrArg withTrailingSlash (textUnder_eq ..)
  layers := by
    rw [map_settingOf?_getD]
    exact layersOf_selects _ _

/-- The settings of every function that can be shipped either way, over those for all
    functions. One that is not in image mode is always extracted. -/
theorem serverlessFunction_settings {logicalId : String} (hown : (variablesOf properties).Distinct)
    (hglobals : (variablesOf globals).Distinct) :
    (¬ FunctionKind.serverless.InImageMode properties →
      ∃ function, serverlessFunction logicalId properties (.ofSettings globals) layers
        = .ok function) ∧
    ∀ function,
      serverlessFunction logicalId properties (.ofSettings globals) layers = .ok function →
      HasSettings globals properties function ∧
      match function.packaging with
      | .image _ => FunctionKind.serverless.InImageMode properties ∧
          function.runtimeManagement = none
      | .zip code => ¬ FunctionKind.serverless.InImageMode properties ∧
          HasCode globals properties layers code ∧
          function.runtimeManagement
            = ((triggerOf? properties).or (triggerOf? globals)).map RuntimeManagement.mk := by
  unfold serverlessFunction
  dsimp only
  split
  · rename_i hmode
    refine ⟨fun hnot => absurd hmode hnot, fun function h => ?_⟩
    obtain ⟨source, -, h⟩ := except_bind_eq_ok_iff.1 h
    obtain rfl := Except.ok.inj h
    exact ⟨functionSpec_hasSettings _ _ _ _ hown hglobals, hmode, rfl⟩
  · rename_i hmode
    refine ⟨fun _ => ⟨_, rfl⟩, fun function h => ?_⟩
    obtain rfl := Except.ok.inj h
    refine ⟨functionSpec_hasSettings _ _ _ _ hown hglobals, hmode, codePackage_hasCode _ _ _, ?_⟩
    rw [← updateTrigger?_eq, ← updateTrigger?_eq, ← given?_bind globals _ rfl]
    rfl

/-- Settings for all functions. -/
def sharedSettings : Entries Node :=
  [("Timeout", .str "15"), ("Layers", .seq [.str "Base"]),
    ("Environment", .map [("Variables", .map [("STAGE", .str "dev"), ("PORT", .int 80)])])]

/-- Settings of one function, with layers that are known, repeated and unknown. -/
def ownSettings : Entries Node :=
  [("Timeout", .str "soon"),
    ("Layers", .seq [.call "Ref" (.str "Tools"), .str "Other", .str "", .str "Tools"]),
    ("Environment", .map [("Variables", .map [("PORT", .int 8080)])])]

/-- Variables are put together, layers are replaced, and a number that cannot be read gives
    way to the one for all functions. -/
theorem serverlessFunction_settings_own :
    (variablesOf ownSettings).Distinct ∧ (variablesOf sharedSettings).Distinct ∧
      ∃ function, serverlessFunction "F" ownSettings (.ofSettings sharedSettings)
          (.ofList [("Tools", layerSpec "Tools" [])]) = .ok function ∧
        function.environment.get? "PORT" = some "8080" ∧
        function.environment.get? "STAGE" = some "dev" ∧
        function.environment.get? "HOME" = none ∧ function.timeout = 15 ∧
        ∃ code, function.packaging = .zip code ∧
          code.layers = [layerSpec "Tools" [], layerSpec "Tools" []] := by
  have hown : (variablesOf ownSettings).Distinct := by decide
  have hshared : (variablesOf sharedSettings).Distinct := by decide
  obtain ⟨hzip, hall⟩ := @serverlessFunction_settings sharedSettings ownSettings
    (.ofList [("Tools", layerSpec "Tools" [])]) "F" hown hshared
  have hmode : ¬ FunctionKind.serverless.InImageMode ownSettings := by
    rintro (htype | huri)
    · exact absurd htype (by decide)
    · exact huri rfl
  obtain ⟨function, hfunction⟩ := hzip hmode
  have hsettings := (hall function hfunction).1
  refine ⟨hown, hshared, function, hfunction, ?_, ?_, ?_, ?_, ?_⟩
  · exact hsettings.environment "PORT"
  · exact hsettings.environment "STAGE"
  · exact hsettings.environment "HOME"
  · exact hsettings.timeout
  · cases hfunction
    exact ⟨_, rfl, rfl⟩

end SamTemplate
