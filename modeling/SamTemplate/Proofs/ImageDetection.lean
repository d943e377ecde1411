import Mathlib.Data.List.Nodup
import SamTemplate.Proofs.EmittedFunctions
import SamTemplate.Proofs.IntegerSpellings

/-!
# Which functions are shipped as images

A function is shipped as an image if it says so or refers to one, and either type of resource has
a rule of its own for this. What a compilation makes of the image of a function (`imageOf?`) is told
by the properties of the function alone (`FunctionKind.image?`), so the two rules can be compared on
the same two nodes. They differ in one thing: blanks around the word for images count in one of them
and not in the other.

* `imageOf?_compileDocument`: what is made of an image, by either rule;
* `trim_of_eqIgnoringAsciiCase`: a word that is told without trimming is told with it;
* `imageOf?_alike`: the two rules agree, but for padded words without a reference.
-/

namespace SamTemplate

/-! ### Blanks around words -/

theorem trim_of_noBlanks {text : String} (h : ∀ c ∈ text.toList, isBlank c = false) :
    trim text = text := by
  by_cases hne : text.toList = []
  · rw [String.toList_eq_nil_iff.1 hne]
    rfl
  · have htrim := @trimChars_padded [] text.toList [] (by simp) (by simp) hne h
    rw [List.nil_append, List.append_nil] at htrim
    rw [trim, htrim, String.ofList_toList]

theorem toLower_of_isBlank {c : Char} (h : isBlank c = true) : c.toLower = c := by
  refine dif_neg fun ⟨hfirst, hlast⟩ => ?_
  have hfirst' : 65 ≤ c.toNat := hfirst
  have hlast' : c.toNat ≤ 90 := hlast
  have hrange := toNat_of_isBlank h
  omega

/-- A text that is a word without blanks, up to the case of letters, has no blanks either. -/
theorem trim_of_eqIgnoringAsciiCase {text word : String}
    (hword : (word.toList.map Char.toLower).any isBlank = false)
    (h : eqIgnoringAsciiCase text word = true) : trim text = text := by
  refine trim_of_noBlanks fun c hc => Bool.eq_false_iff.2 fun hblank => ?_
  -- A blank is its own lower case, so it would be in the word.
  have hlower : c.toLower ∈ word.toList.map Char.toLower := by
    rw [← of_decide_eq_true h]
    exact List.mem_map_of_mem hc
  rw [toLower_of_isBlank hblank] at hlower
  exact List.any_eq_false.1 hword c hlower hblank

/-! ### What is made of an image -/

namespace ImageError

/-- What is wrong with the reference to an image. -/
inductive Kind where
  /-- There is none. -/
  | missing
  /-- It still has a token in it. -/
  | unresolved
  deriving DecidableEq, Repr

/-- What an error says is wrong. -/
def kind : ImageError → Kind
  | missing .. => .missing
  | unresolved .. => .unresolved

end ImageError

/-- The image that a compiled function is shipped as. -/
def FunctionSpec.image? (function : FunctionSpec) : Option String :=
  match function.packaging with
  | .image image => some image.imageSource
  | .zip _ => none

theorem FunctionSpec.image?_of_zip {function : FunctionSpec} (h : function.isImage = false) :
    function.image? = none := by
  cases hp : function.packaging with
  | image image => simp [isImage, hp] at h
  | zip code => rw [image?, hp]

/-- What a compilation makes of the image of a function: the reference, or what is wrong with it.
    Nothing if the function is not taken for one that is shipped as an image. -/
def imageOf? (outcome : Except CompileError Compilation) (logicalId : String) :
    Option (Except ImageError.Kind String) :=
  match outcome with
  | .ok compilation =>
    ((compilation.functions.find? (·.logicalId = logicalId)).bind FunctionSpec.image?).map .ok
  | .error (.image error) =>
    if error.logicalId = logicalId then some (.error error.kind) else none
  | .error _ => none

namespace FunctionKind

instance (kind : FunctionKind) (properties : Entries Node) :
    Decidable (kind.InImageMode properties) :=
  inferInstanceAs (Decidable (_ ∨ _))

/-- The image of a function as its properties have it: the reference, or what is wrong with it.
    Nothing if the function is not shipped as an image. -/
def image? (kind : FunctionKind) (properties : Entries Node) :
    Option (Except ImageError.Kind String) :=
  let uri := kind.imageUri properties
  if kind.InImageMode properties then
    some (if uri = "" then .error .missing
      else if contains uri "$\x7b" then .error .unresolved
      else .ok uri)
  else none

end FunctionKind

/-- A template that describes a function by these properties once it is resolved, and that is not
    refused for another function. -/
structure Reaches (document : Entries Node) (overrides : Parameters) (logicalId : String)
    (kind : FunctionKind) (properties : Entries Node) : Prop where
  describes : ∃ resource,
    (Bindings.ofList (resolvedResources document overrides)).get? logicalId = some resource ∧
      Describes resource kind properties
  unblocked : ∀ error, compileDocument document overrides = .error (.image error) →
    error.logicalId = logicalId

section

variable {document : Entries Node} {overrides : Parameters} {logicalId : String}
  {kind : FunctionKind} {properties resources : Entries Node} {functions : List FunctionSpec}

/-- Where a resource is found, the resources stand in the root of the template. -/
theorem exists_root_of_get? {resource : Node}
    (h : (Bindings.ofList (resolvedResources document overrides)).get? logicalId
      = some resource) :
    ∃ root : Entries Node, (resolveDocument document overrides).1 = .map root ∧
      root.get? "Resources" = some (.map (resolvedResources document overrides)) := by
  have hmem := Bindings.mem_of_get?_ofList h
  unfold resolvedResources at hmem ⊢
  generalize (resolveDocument document overrides).1 = resolved at hmem ⊢
  cases resolved with
  | map root =>
    refine ⟨root, rfl, ?_⟩
    change _ ∈ ((Entries.get? "Resources" root).bind Node.entries?).getD [] at hmem
    change _ = some (Node.map (((Entries.get? "Resources" root).bind Node.entries?).getD []))
    cases hresources : Entries.get? "Resources" root with
    | none =>
      rw [hresources] at hmem
      exact nomatch hmem
    | some value =>
      rw [hresources] at hmem
      cases value with
      | map resources => rfl
      | _ => exact nomatch hmem
  | _ => exact nomatch hmem

theorem find?_logicalId (hnodup : (functions.map (·.logicalId)).Nodup) {function : FunctionSpec}
    (hmem : function ∈ functions) :
    functions.find? (·.logicalId = function.logicalId) = some function := by
  cases hfind : functions.find? (·.logicalId = function.logicalId) with
  | none => exact absurd (decide_eq_true rfl) (List.find?_eq_none.1 hfind function hmem)
  | some found =>
    have hid : found.logicalId = function.logicalId := by simpa using List.find?_some hfind
    rw [List.inj_on_of_nodup_map hnodup (List.mem_of_find?_eq_some hfind) hmem hid]

theorem logicalId_imageError :
    (kind.imageError logicalId properties).logicalId = logicalId := by
  unfold FunctionKind.imageError
  dsimp only
  split <;> rfl

/-- What a function that is extracted is shipped as is what its properties say. -/
theorem Extracts.image?_eq {resource : Node} {function : Option FunctionSpec} {told : List String}
    (h : Extracts logicalId resource (.ok function) told)
    (hd : Describes resource kind properties) :
    (function.bind FunctionSpec.image?).map .ok = kind.image? properties := by
  unfold FunctionKind.image?
  dsimp only
  cases h with
  | image hd' hmode huri _ hpackaging =>
    obtain ⟨rfl, rfl⟩ := hd.unique hd'
    obtain ⟨hne, htoken⟩ := not_or.1 huri
    rw [if_pos hmode, if_neg hne, if_neg htoken, Option.bind_some, FunctionSpec.image?, hpackaging]
    rfl
  | @zip _ function hd' hzip _ hpackaging =>
    obtain ⟨rfl, rfl⟩ := hd.unique hd'
    rw [if_neg hzip, Option.bind_some, FunctionSpec.image?_of_zip hpackaging]
    rfl
  | zipNotSupported hd' hzip =>
    obtain ⟨rfl, rfl⟩ := hd.unique hd'
    rw [if_neg hzip]
    rfl
  | withoutProperties hkind hnone =>
    obtain rfl := hkind.unique hd.hasKind
    exact absurd hd (hnone _)
  | other hnone => exact absurd hd.hasKind (hnone _)

/-- The error about a function is what its properties say is wrong. -/
theorem Extracts.image?_of_error {resource : Node} {error : ImageError} {told : List String}
    (h : Extracts logicalId resource (.error error) told)
    (hd : Describes resource kind properties) :
    kind.image? properties = some (.error error.kind) := by
  obtain @⟨kind', properties', hd', hmode, huri⟩ := h
  obtain ⟨rfl, rfl⟩ := hd.unique hd'
  unfold FunctionKind.image? FunctionKind.imageError
  dsimp only
  rw [if_pos hmode]
  by_cases hempty : kind.imageUri properties = ""
  · rw [if_pos hempty, if_pos hempty]
    rfl
  · rw [if_neg hempty, if_neg hempty, if_pos (huri.resolve_left hempty)]
    rfl

/-- What a compilation makes of the image of a function is what the properties say. -/
theorem imageOf?_compileDocument (h : Reaches document overrides logicalId kind properties) :
    imageOf? (compileDocument document overrides) logicalId = kind.image? properties := by
  obtain ⟨resource, hget, hd⟩ := h.describes
  obtain ⟨root, hroot, hresources⟩ := exists_root_of_get? hget
  rcases compileDocument_collects hroot hresources with
    ⟨error, hs, hcompile⟩ | ⟨functions, told, compilation, hg, hcompile, hfunctions, htold⟩
  · -- The error is about this function.
    obtain ⟨other, resource', hget', ⟨kind', properties', hd', hmode, huri, rfl⟩, -⟩ :=
      hs.firstBlocks
    obtain rfl : other = logicalId := logicalId_imageError.symm.trans (h.unblocked _ hcompile)
    obtain rfl : resource = resource' := Option.some.inj (hget.symm.trans hget')
    rw [hcompile, (Extracts.unusable hd' hmode huri).image?_of_error hd]
    exact if_pos logicalId_imageError
  · obtain ⟨function, told', he, hkept, -⟩ := hg.extracts _ (mem_inKeyOrder_iff.2 hget)
    obtain ⟨hnodup, hids, -⟩ := hg.output hfunctions htold
    -- The function with the logical id, if there is one, is that of the resource.
    have hfind : compilation.functions.find? (·.logicalId = logicalId) = function := by
      cases function with
      | none =>
        refine List.find?_eq_none.2 fun other hmem hid => ?_
        obtain ⟨resource', hget', hgives⟩ :=
          (hids logicalId).1 (List.mem_map.2 ⟨other, hmem, of_decide_eq_true hid⟩)
        obtain rfl : resource = resource' := Option.some.inj (hget.symm.trans hget')
        exact nomatch he.isSome_iff.2 hgives
      | some function =>
        obtain rfl : function.logicalId = logicalId := he.logicalId_eq
        have hmem := (FunctionSpec.inNameOrder_perm functions).mem_iff.2 (hkept function rfl)
        exact find?_logicalId hnodup (hfunctions ▸ hmem)
    rw [hcompile, ← he.image?_eq hd, ← hfind]
    rfl

end

/-! ### The two rules -/

/-- The package type is the word for images only without the blanks around it, and there is no
    reference to an image. -/
def OnlyPadded (properties : Entries Node) : Prop :=
  let packageType := FunctionKind.serverless.packageType properties
  eqIgnoringAsciiCase packageType "Image" = false ∧
    eqIgnoringAsciiCase (trim packageType) "Image" = true ∧
    FunctionKind.serverless.imageUri properties = ""

namespace FunctionKind

section

variable {properties properties' : Entries Node}
  (hnode : serverless.imageNode? properties = lambda.imageNode? properties')
include hnode

theorem imageUri_alike : serverless.imageUri properties = lambda.imageUri properties' := by
  rw [imageUri_eq, imageUri_eq, hnode]

variable (htype : properties.get? "PackageType" = properties'.get? "PackageType")
include htype

/-- The two rules decide alike, but for padded words without a reference. -/
theorem inImageMode_iff :
    lambda.InImageMode properties' ↔
      serverless.InImageMode properties ∨ OnlyPadded properties := by
  have htrim : lambda.packageType properties' = trim (serverless.packageType properties) := by
    rw [packageType, packageType, htype]
  have hword (h : eqIgnoringAsciiCase (serverless.packageType properties) "Image" = true) :
      trim (serverless.packageType properties) = serverless.packageType properties :=
    trim_of_eqIgnoringAsciiCase (by decide) h
  rw [InImageMode, InImageMode, OnlyPadded, htrim, ← imageUri_alike hnode]
  -- A word that is told as it stands is told by both rules, and so is a reference.
  by_cases htext : eqIgnoringAsciiCase (serverless.packageType properties) "Image" = true
  · simp [htext, hword htext]
  · by_cases huri : serverless.imageUri properties = "" <;> simp [htext, huri]

theorem image?_alike (h : ¬ OnlyPadded properties) :
    serverless.image? properties = lambda.image? properties' := by
  have hmode : lambda.InImageMode properties' ↔ serverless.InImageMode properties := by
    rw [inImageMode_iff hnode htype, or_iff_left h]
  unfold image?
  rw [imageUri_alike hnode]
  simp only [hmode]

theorem image?_of_onlyPadded (h : OnlyPadded properties) :
    serverless.image? properties = none ∧ lambda.image? properties' = some (.error .missing) := by
  obtain ⟨htext, -, huri⟩ := id h
  have hzip : ¬ serverless.InImageMode properties :=
    not_or.2 ⟨Bool.eq_false_iff.1 htext, not_not_intro huri⟩
  have hmode : lambda.InImageMode properties' := (inImageMode_iff hnode htype).2 (.inr h)
  unfold image?
  dsimp only
  rw [if_neg hzip, if_pos hmode, ← imageUri_alike hnode, if_pos huri]
  exact ⟨rfl, rfl⟩

end

end FunctionKind

/-- Two templates with a function, one for each type of resource, that have the same node as their
    package type and the same node as the reference to their image: both functions are taken for
    ones that are shipped as images or neither is, with the same reference or the same thing wrong
    with it. The one exception is a package type that is the word for images but for blanks around
    it, without a reference to an image: the first function is then not shipped as an image, and the
    second one is refused because it has none. -/
theorem imageOf?_alike {document document' : Entries Node} {overrides overrides' : Parameters}
    {logicalId logicalId' : String} {properties properties' : Entries Node}
    (h : Reaches document overrides logicalId .serverless properties)
    (h' : Reaches document' overrides' logicalId' .lambda properties')
    (htype : properties.get? "PackageType" = properties'.get? "PackageType")
    (hnode : FunctionKind.serverless.imageNode? properties
      = FunctionKind.lambda.imageNode? properties') :
    (¬ OnlyPadded properties →
      imageOf? (compileDocument document overrides) logicalId
        = imageOf? (compileDocument document' overrides') logicalId') ∧
    (OnlyPadded properties →
      imageOf? (compileDocument document overrides) logicalId = none ∧
        imageOf? (compileDocument document' overrides') logicalId' = some (.error .missing)) := by
  rw [imageOf?_compileDocument h, imageOf?_compileDocument h']
  exact ⟨FunctionKind.image?_alike hnode htype, FunctionKind.image?_of_onlyPadded hnode htype⟩

/-- The properties of a function whose package type has blanks around the word, with a reference to
    an image or without. -/
def padded (reference : Option String) : FunctionKind → Entries Node
  | .serverless =>
    ("PackageType", .str " Image ") :: reference.toList.map fun uri => ("ImageUri", .str uri)
  | .lambda =>
    [("PackageType", .str " Image "),
      ("Code", .map (reference.toList.map fun uri => ("ImageUri", .str uri)))]

/-- A template with this function. -/
def paddedTemplate (reference : Option String) (kind : FunctionKind) : Entries Node :=
  [("Resources", .map [("Resize", .map
    [("Type", .str kind.resourceType.name), ("Properties", .map (padded reference kind))])])]

/-- With a reference the two rules agree. -/
theorem imageOf?_alike_padded :
    (∀ kind, Reaches (paddedTemplate (some "resize:1") kind) .empty "Resize" kind
      (padded (some "resize:1") kind)) ∧
    imageOf? (compileDocument (paddedTemplate (some "resize:1") .serverless) .empty) "Resize"
      = imageOf? (compileDocument (paddedTemplate (some "resize:1") .lambda) .empty) "Resize" ∧
    imageOf? (compileDocument (paddedTemplate (some "resize:1") .lambda) .empty) "Resize"
      = some (.ok "resize:1") := by
  have hreaches : ∀ kind, Reaches (paddedTemplate (some "resize:1") kind) .empty "Resize" kind
      (padded (some "resize:1") kind) := by
    intro kind
    cases kind <;>
      exact ⟨⟨_, rfl, ⟨⟨_, rfl, rfl⟩, rfl⟩⟩, fun error herror => nomatch herror⟩
  have halike := (imageOf?_alike (hreaches .serverless) (hreaches .lambda) rfl rfl).1
    fun honly => absurd honly.2.2 (by decide)
  exact ⟨hreaches, halike, by decide +kernel⟩

/-- Without a reference they do not. -/
theorem imageOf?_padded_ne :
    (∀ kind, Reaches (paddedTemplate none kind) .empty "Resize" kind (padded none kind)) ∧
    (padded none .serverless).get? "PackageType" = (padded none .lambda).get? "PackageType" ∧
    FunctionKind.serverless.imageNode? (padded none .serverless)
      = FunctionKind.lambda.imageNode? (padded none .lambda) ∧
    imageOf? (compileDocument (paddedTemplate none .serverless) .empty) "Resize" = none ∧
    imageOf? (compileDocument (paddedTemplate none .lambda) .empty) "Resize"
      = some (.error .missing) := by
  refine ⟨fun kind => ?_, rfl, rfl, by decide +kernel, by decide +kernel⟩
  cases kind with
  | serverless => exact ⟨⟨_, rfl, ⟨⟨_, rfl, rfl⟩, rfl⟩⟩, fun error herror => nomatch herror⟩
  | lambda =>
    refine ⟨⟨_, rfl, ⟨⟨_, rfl, rfl⟩, rfl⟩⟩, fun error herror => ?_⟩
    cases herror
    rfl

end SamTemplate
