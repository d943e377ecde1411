import SamTemplate.Proofs.EmittedFunctions
import SamTemplate.Proofs.Idempotence

/-!
# Where images come from

The reference to an image is the text of a node, and the check of references only looks
at this text: that it is not empty and has no token in it. A mapping has a text as well,
its JSON, so that a call that could not be resolved passes for a reference
(`compile_unfinishedImage`). What is true is that such a call is noted: in a template
that is resolved in silence the node has no call left in it, and no token with a value.

* `ReadsImageFrom`: the node of the resolved template that a reference is read from;
* `compile_imageSource`: what is known of the image of a compiled function.
-/

namespace SamTemplate

namespace Node

/-- In a normal tree everything under a key is normal. -/
theorem Normal.get? {parameters : Parameters} {node value : Node} {key : String}
    (h : node.Normal parameters) (hget : node.get? key = some value) : value.Normal parameters := by
  cases h with
  | map _ he => exact he _ (Entries.mem_of_get? hget)
  | _ => exact nomatch hget

end Node

/-- The reference to the image of a function is read from this node of the resources. -/
def ReadsImageFrom (resources : Entries Node) (logicalId : String) (node : Node) : Prop :=
  ∃ resource kind properties, (Bindings.ofList resources).get? logicalId = some resource ∧
    Describes resource kind properties ∧ kind.imageNode? properties = some node

/-- The values of the parameters that a template is resolved with. -/
def effectiveParameters (document : Entries Node) (overrides : Parameters) : Parameters :=
  (declaredParameters document).insertAll overrides.entries

section

variable {document : Entries Node} {overrides : Parameters} {logicalId : String} {node : Node}

/-- In a template that is resolved in silence the node of a reference is normal. -/
theorem ReadsImageFrom.normal
    (h : ReadsImageFrom (resolvedResources document overrides) logicalId node)
    (hquiet : (resolveDocument document overrides).2.warnings = .empty) :
    node.Normal (effectiveParameters document overrides) := by
  have hroot : (resolveDocument document overrides).1.Normal
      (effectiveParameters document overrides) := (Session.normal_within_of_quiet hquiet).1
  obtain ⟨resource, kind, properties, hget, hd, hnode⟩ := h
  -- The resources stand in the root, the resource among them.
  have hresource : resource.Normal (effectiveParameters document overrides) := by
    have hmem := Bindings.mem_of_get?_ofList hget
    unfold resolvedResources at hmem
    rcases hr : (resolveDocument document overrides).1.get? "Resources" with _ | resources
    · rw [hr] at hmem
      exact nomatch hmem
    · rw [hr] at hmem
      have hresources := hroot.get? hr
      cases hresources with
      | map _ he => exact he _ hmem
      | _ => exact nomatch hmem
  have hproperties := hresource.get? hd.properties
  cases kind with
  | serverless =>
    have hnode' : (Node.map properties).get? "ImageUri" = some node := hnode
    exact hproperties.get? hnode'
  | lambda =>
    obtain ⟨code, hcode, hnode⟩ := Option.bind_eq_some_iff.1 hnode
    have hcode' : (Node.map properties).get? "Code" = some code := hcode
    exact (hproperties.get? hcode').get? hnode

end

/-- The image of a compiled function is the trimmed text of a node of the resolved
    template, which is not empty and has no token in it. If the template was resolved in
    silence, no call is left in this node, nor anything else that can be resolved. -/
theorem compile_imageSource {text : String} {overrides : Parameters} {compilation : Compilation}
    {function : FunctionSpec} {image : ImagePackage}
    (h : compile text overrides = .ok compilation) (hmem : function ∈ compilation.functions)
    (hp : function.packaging = .image image) :
    ∃ document node, readDocument text = .ok document ∧
      ReadsImageFrom (resolvedResources document overrides) function.logicalId node ∧
      image.imageSource = trim node.text ∧ image.imageSource ≠ "" ∧
      contains image.imageSource "$\x7b" = false ∧
      ((resolveDocument document overrides).2.warnings = .empty →
        node.Normal (effectiveParameters document overrides)) := by
  obtain ⟨document, hread, hcollected⟩ := exists_collectedFrom_of_compile h
  obtain ⟨resource, hget, he⟩ := hcollected.exists_emits hmem
  obtain ⟨kind, properties, hd, husable, rfl⟩ := he.image_of_packaging hp
  obtain ⟨hne, htoken⟩ := not_or.1 husable
  rcases hnode : kind.imageNode? properties with _ | node
  · -- Without a node there is no text.
    rw [FunctionKind.imageUri_eq, hnode] at hne
    exact absurd rfl hne
  · have huri : kind.imageUri properties = trim node.text := by
      rw [FunctionKind.imageUri_eq, hnode]
      rfl
    have hreads : ReadsImageFrom (resolvedResources document overrides) function.logicalId node :=
      ⟨resource, kind, properties, hget, hd, hnode⟩
    exact ⟨document, node, hread, hreads, huri, hne, Bool.eq_false_iff.2 htoken, hreads.normal⟩

/-- A template with a function whose image depends on a parameter. -/
def stagedImage : String :=
  "Resources: \x7bF: \x7bType: AWS::Serverless::Function, "
    ++ "Properties: \x7bImageUri: !Sub 'repo:$\x7bStage\x7d'\x7d\x7d\x7d"

theorem exists_function_of_packagings (text : String) (overrides : Parameters)
    (logicalId : String) (packaging : Packaging)
    (h : (compile text overrides).toOption.map (fun compilation =>
        compilation.functions.map fun function => (function.logicalId, function.packaging))
      = some [(logicalId, packaging)]) :
    ∃ compilation function, compile text overrides = .ok compilation ∧
      function ∈ compilation.functions ∧ function.logicalId = logicalId ∧
      function.packaging = packaging := by
  obtain ⟨compilation, hcompile, hfunctions⟩ := exists_of_map_toOption h
  have hmem := List.mem_singleton_self (logicalId, packaging)
  rw [← hfunctions] at hmem
  obtain ⟨function, hfunction, heq⟩ := List.mem_map.1 hmem
  exact ⟨compilation, function, hcompile, hfunction, congrArg Prod.fst heq, congrArg Prod.snd heq⟩

theorem compile_stagedImage :
    ∃ compilation function document, ∃ node : Node,
      compile stagedImage (Bindings.empty.insert "Stage" "prod") = .ok compilation ∧
      function ∈ compilation.functions ∧ function.packaging = .image ⟨"repo:prod"⟩ ∧
      readDocument stagedImage = .ok document ∧ "repo:prod" = trim node.text ∧
      node.Normal (effectiveParameters document (Bindings.empty.insert "Stage" "prod")) := by
  obtain ⟨compilation, function, hcompile, hmem, -, hp⟩ :=
    exists_function_of_packagings stagedImage (Bindings.empty.insert "Stage" "prod") "F"
      (.image ⟨"repo:prod"⟩) (by decide +kernel)
  obtain ⟨document, node, hread, -, htext, -, -, hnormal⟩ :=
    compile_imageSource hcompile hmem hp
  obtain ⟨document', hread', hquiet⟩ := exists_of_map_toOption
    (show (readDocument stagedImage).toOption.map (fun document =>
        (resolveDocument document (Bindings.empty.insert "Stage" "prod")).2.warnings)
      = some .empty by decide +kernel)
  obtain rfl := Except.ok.inj (hread.symm.trans hread')
  exact ⟨compilation, function, document, node, hcompile, hmem, hp, hread, htext, hnormal hquiet⟩

/-- A template with a function whose image is an attribute without a name. -/
def unfinishedImage : String :=
  "Resources: \x7bF: \x7bType: AWS::Serverless::Function, "
    ++ "Properties: \x7bImageUri: \x7bFn::GetAtt: [a]\x7d\x7d\x7d\x7d"

/-- The same template as a tree. -/
def unfinishedImageDocument : Entries Node :=
  [("Resources", .map [("F", .map [
    ("Type", .str "AWS::Serverless::Function"),
    ("Properties", .map [("ImageUri", .call "Fn::GetAtt" (.seq [.str "a"]))])])])]

/-- Whether this tree was read. Trees have no equality that can be decided. -/
def readsUnfinishedImage : Except DocumentError (Entries Node) → Bool
  | .ok [("Resources", .map [("F", .map [
      ("Type", .str "AWS::Serverless::Function"),
      ("Properties", .map [("ImageUri", .map [("Fn::GetAtt", .seq [.str "a"])])])])])] => true
  | _ => false

theorem eq_of_readsUnfinishedImage {outcome : Except DocumentError (Entries Node)}
    (h : readsUnfinishedImage outcome = true) : outcome = .ok unfinishedImageDocument := by
  unfold readsUnfinishedImage at h
  split at h
  · rfl
  · exact absurd h Bool.false_ne_true

/-- The call is left as it is, and its JSON is taken for the reference to an image. -/
theorem compile_unfinishedImage :
    ∃ compilation function, compile unfinishedImage .empty = .ok compilation ∧
      readDocument unfinishedImage = .ok unfinishedImageDocument ∧
      function ∈ compilation.functions ∧
      function.packaging = .image ⟨"\x7b\"Fn::GetAtt\":[\"a\"]\x7d"⟩ ∧
      ReadsImageFrom (resolvedResources unfinishedImageDocument .empty) function.logicalId
        (.call "Fn::GetAtt" (.seq [.str "a"])) ∧
      ¬ (Node.call "Fn::GetAtt" (.seq [.str "a"])).IsScalar := by
  obtain ⟨compilation, function, hcompile, hmem, hid, hp⟩ :=
    exists_function_of_packagings unfinishedImage .empty "F"
      (.image ⟨"\x7b\"Fn::GetAtt\":[\"a\"]\x7d"⟩) (by decide +kernel)
  have hread := eq_of_readsUnfinishedImage
    (show readsUnfinishedImage (readDocument unfinishedImage) = true by decide +kernel)
  refine ⟨compilation, function, hcompile, hread, hmem, hp, ?_, id⟩
  rw [hid]
  exact ⟨_, .serverless, _, rfl, ⟨⟨_, rfl, rfl⟩, rfl⟩, rfl⟩

end SamTemplate
