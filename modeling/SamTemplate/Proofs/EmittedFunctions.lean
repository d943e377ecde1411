import SamTemplate.Proofs.Collected

/-!
# Emitted functions

The functions that are extracted, with all of their settings (`Emits`): a function in
image mode has its checked reference and nothing that goes with an archive, any other
one the archive that its properties and the defaults describe. What holds of emitted
functions is shown by these two cases.

* `emits_of_functionOf?`: the function of a resource is one of the two;
* `CollectedFrom.exists_emits`: every function of a compilation comes of a resource of
  the resolved template.
-/

namespace SamTemplate

open Collecting

/-- One computation after another gives a value if both do. -/
theorem except_bind_eq_ok_iff {ε α β : Type} {x : Except ε α} {f : α → Except ε β} {b : β} :
    (x >>= f) = .ok b ↔ ∃ a, x = .ok a ∧ f a = .ok b := by
  cases x <;> simp [bind, Except.bind]

theorem exists_of_map_toOption {ε α β : Type} {x : Except ε α} {f : α → β} {b : β}
    (h : x.toOption.map f = some b) : ∃ a, x = .ok a ∧ f a = b := by
  rcases x with error | a
  · exact nomatch h
  · exact ⟨a, rfl, Option.some.inj h⟩

namespace FunctionKind

/-- What starts a function: what its properties say, if it can be shipped either way. -/
def events (kind : FunctionKind) (properties : Entries Node) : List Event :=
  match kind with
  | serverless => ((properties.get? "Events").map eventsOf).getD []
  | lambda => []

/-- The node that the reference to an image is read from. -/
def imageNode? (kind : FunctionKind) (properties : Entries Node) : Option Node :=
  match kind with
  | serverless => properties.get? "ImageUri"
  | lambda => (properties.get? "Code").bind (·.get? "ImageUri")

theorem imageUri_eq (kind : FunctionKind) (properties : Entries Node) :
    kind.imageUri properties = trim (((kind.imageNode? properties).map Node.text).getD "") := by
  cases kind <;> rfl

end FunctionKind

/-- When the runtime of a function is updated: by its own settings or else by those of all. -/
def runtimeManagementOf (properties : Entries Node) (defaults : FunctionDefaults) :
    Option RuntimeManagement :=
  (((properties.get? "RuntimeManagementConfig").bind updateTrigger?).or
    defaults.updateRuntimeOn).map RuntimeManagement.mk

/-- The function that the resource of a logical id gives, with all its settings. -/
inductive Emits (defaults : FunctionDefaults) (layers : Bindings LayerSpec) (logicalId : String)
    (resource : Node) : FunctionSpec → Prop
  /-- In image mode it is shipped as the image of its reference. -/
  | image {kind : FunctionKind} {properties : Entries Node} :
      Describes resource kind properties → kind.InImageMode properties →
      ¬ UnusableUri (kind.imageUri properties) →
      Emits defaults layers logicalId resource
        (functionSpec logicalId properties defaults (.image ⟨kind.imageUri properties⟩)
          (kind.events properties) none)
  /-- Otherwise it is shipped as an archive. -/
  | zip {properties : Entries Node} :
      Describes resource .serverless properties →
      ¬ FunctionKind.serverless.InImageMode properties →
      Emits defaults layers logicalId resource
        (functionSpec logicalId properties defaults (.zip (codePackage properties defaults layers))
          (FunctionKind.serverless.events properties) (runtimeManagementOf properties defaults))

section

variable {defaults : FunctionDefaults} {layers : Bindings LayerSpec} {logicalId : String}
  {resource : Node} {properties : Entries Node} {function : FunctionSpec}

/-- A reference that passes the check can be used, and is taken as it is. -/
theorem checkImageUri_eq_ok {name property uri source : String}
    (h : checkImageUri name logicalId property uri = .ok source) :
    ¬ UnusableUri uri ∧ source = uri := by
  unfold checkImageUri at h
  split at h
  · exact nomatch h
  · rename_i hempty
    split at h
    · exact nomatch h
    · rename_i htoken
      exact ⟨fun hu => hu.elim hempty htoken, (Except.ok.inj h).symm⟩

theorem emits_of_serverlessFunction (hd : Describes resource .serverless properties)
    (h : serverlessFunction logicalId properties defaults layers = .ok function) :
    Emits defaults layers logicalId resource function := by
  unfold serverlessFunction at h
  dsimp only at h
  split at h
  · rename_i hmode
    obtain ⟨source, hsource, h⟩ := except_bind_eq_ok_iff.1 h
    obtain ⟨husable, rfl⟩ := checkImageUri_eq_ok hsource
    obtain rfl := Except.ok.inj h
    exact @Emits.image _ _ _ _ .serverless _ hd hmode husable
  · rename_i hmode
    obtain rfl := Except.ok.inj h
    exact .zip hd hmode

theorem emits_of_lambdaFunction (hd : Describes resource .lambda properties)
    (hmode : FunctionKind.lambda.InImageMode properties)
    (h : lambdaFunction logicalId properties defaults (FunctionKind.lambda.imageUri properties)
      = .ok function) :
    Emits defaults layers logicalId resource function := by
  unfold lambdaFunction at h
  obtain ⟨source, hsource, h⟩ := except_bind_eq_ok_iff.1 h
  obtain ⟨husable, rfl⟩ := checkImageUri_eq_ok hsource
  obtain rfl := Except.ok.inj h
  exact @Emits.image _ _ _ _ .lambda _ hd hmode husable

/-- The function of a resource is emitted for it. -/
theorem emits_of_functionOf? (h : functionOf? defaults layers logicalId resource = some function) :
    Emits defaults layers logicalId resource function := by
  unfold functionOf? function? at h
  split at h
  · rename_i htype
    rcases hp : properties? resource with _ | properties
    · rw [hp] at h
      exact nomatch h
    · rw [hp] at h
      dsimp only at h
      rw [(Tells.ofExcept _ some).value_eq] at h
      rcases hf : serverlessFunction logicalId properties defaults layers with error | made
      · rw [hf] at h
        exact nomatch h
      · rw [hf] at h
        obtain rfl := Option.some.inj h
        exact emits_of_serverlessFunction (describes_iff.2 ⟨htype, hp⟩) hf
  · rename_i htype
    rcases hp : properties? resource with _ | properties
    · rw [hp] at h
      exact nomatch h
    · rw [hp] at h
      dsimp only at h
      rcases lambdaImage?_eq properties with ⟨hmode, hi⟩ | ⟨-, hi⟩
      · rw [hi] at h
        dsimp only at h
        rw [(Tells.ofExcept _ some).value_eq] at h
        rcases hf : lambdaFunction logicalId properties defaults
            (FunctionKind.lambda.imageUri properties) with error | made
        · rw [hf] at h
          exact nomatch h
        · rw [hf] at h
          obtain rfl := Option.some.inj h
          exact emits_of_lambdaFunction (describes_iff.2 ⟨htype, hp⟩) hmode hf
      · rw [hi] at h
        exact nomatch h
  · exact nomatch h

namespace Emits

/-- The image of a function is its checked reference. -/
theorem image_of_packaging (h : Emits defaults layers logicalId resource function)
    {image : ImagePackage} (hp : function.packaging = .image image) :
    ∃ kind properties, Describes resource kind properties ∧
      ¬ UnusableUri (kind.imageUri properties) ∧ image = ⟨kind.imageUri properties⟩ := by
  rcases h with ⟨hd, -, husable⟩ | ⟨hd, -⟩
  · exact ⟨_, _, hd, husable, (Packaging.image.inj hp).symm⟩
  · exact nomatch hp

end Emits

end

section

variable {document : Entries Node} {overrides : Parameters} {compilation : Compilation}

/-- Every function of a compilation is emitted for a resource of the resolved template. -/
theorem CollectedFrom.exists_emits (h : CollectedFrom document overrides compilation)
    {function : FunctionSpec} (hmem : function ∈ compilation.functions) :
    ∃ resource,
      (Bindings.ofList (resolvedResources document overrides)).get? function.logicalId
        = some resource ∧
      Emits (resolvedDefaults document overrides)
        (collectLayers (resolvedResources document overrides)) function.logicalId resource
        function := by
  rw [h.functions_eq, (FunctionSpec.inNameOrder_perm _).mem_iff] at hmem
  obtain ⟨resource, hresource, hfunction⟩ := exists_of_mem_collectedFunctions hmem
  exact ⟨resource, mem_inKeyOrder_iff.1 hresource, emits_of_functionOf? hfunction⟩

end

end SamTemplate
