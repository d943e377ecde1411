import SamTemplate.Proofs.Collecting
import SamTemplate.Proofs.Reordering

/-!
# Function resources

Which resources describe functions (`Describes`), which of these are shipped as an
image and with what reference (`FunctionKind.InImageMode`, `FunctionKind.imageUri`),
and what becomes of a resource when the functions are collected (`Extracts`): an
error, a function, or nothing, with or without a notice.

* `function?_tells`: a resource is extracted in one of these ways;
* `Stops.first_blocks`: going through resources stops at the first function without a
  usable image;
* `Gathers.ids_sublist`, `Gathers.mem_ids_iff`: or else it gives one function for each
  resource that is to give one.
-/

namespace SamTemplate

open Collecting

/-! ### Types of resources -/

/-- The two types of resources that describe functions. -/
inductive FunctionKind where
  /-- A function, shipped either way. -/
  | serverless
  /-- A function that is only read if shipped as an image. -/
  | lambda
  deriving DecidableEq, Repr

namespace FunctionKind

/-- The type of resource. -/
def resourceType : FunctionKind → ResourceType
  | serverless => .serverlessFunction
  | lambda => .lambdaFunction

/-- The property that the reference to an image is under. -/
def imageProperty : FunctionKind → String
  | serverless => "ImageUri"
  | lambda => "Code.ImageUri"

/-- The text that says how a function is shipped. -/
def packageType (kind : FunctionKind) (properties : Entries Node) : String :=
  let text := ((properties.get? "PackageType").map Node.text).getD ""
  match kind with
  | serverless => text
  | lambda => trim text

/-- The reference to the image, without blanks at its ends; empty if it is absent. -/
def imageUri (kind : FunctionKind) (properties : Entries Node) : String :=
  let node := match kind with
    | serverless => properties.get? "ImageUri"
    | lambda => (properties.get? "Code").bind (·.get? "ImageUri")
  trim ((node.map Node.text).getD "")

/-- A function is shipped as an image if it says so or refers to one. -/
def InImageMode (kind : FunctionKind) (properties : Entries Node) : Prop :=
  eqIgnoringAsciiCase (kind.packageType properties) "Image" = true ∨ kind.imageUri properties ≠ ""

end FunctionKind

/-- A reference to an image that cannot be used: it is empty or has a token in it. -/
def UnusableUri (uri : String) : Prop := uri = "" ∨ contains uri "$\x7b" = true

/-- The name of a function: its own if it has one, or else its logical id. -/
def effectiveName (logicalId : String) (properties : Entries Node) : String :=
  match properties.get? "FunctionName" with
  | some node => if node.text = "" then logicalId else node.text
  | none => logicalId

/-- The error about a function without a usable image. -/
def FunctionKind.imageError (kind : FunctionKind) (logicalId : String)
    (properties : Entries Node) : ImageError :=
  let uri := kind.imageUri properties
  if uri = "" then .missing (effectiveName logicalId properties) logicalId kind.imageProperty
  else .unresolved (effectiveName logicalId properties) logicalId kind.imageProperty uri

/-- A resource is of a type that describes functions. -/
def HasKind (resource : Node) (kind : FunctionKind) : Prop :=
  ∃ type, resource.get? "Type" = some type ∧ type.text = kind.resourceType.name

/-- A resource describes a function by a mapping of properties. -/
structure Describes (resource : Node) (kind : FunctionKind) (properties : Entries Node) :
    Prop where
  hasKind : HasKind resource kind
  properties : resource.get? "Properties" = some (.map properties)

/-- A resource that is to give a function. -/
def GivesFunction (resource : Node) : Prop :=
  ∃ kind properties, Describes resource kind properties ∧
    (kind = .serverless ∨ kind.InImageMode properties)

/-! ### Readings of resources and properties -/

namespace Node

theorem field?_eq_filter (node : Node) (key : String) :
    node.field? key = (node.get? key).filter fun value => !value.isNull := by
  rw [field?, get?]
  cases node.entries? <;> rfl

theorem text_of_isNull {node : Node} (h : node.isNull = true) : node.text = "" := by
  cases node with
  | null => rfl
  | _ => exact nomatch h

/-- A field with a text that is not empty is not `null`. -/
theorem field?_eq_some_of_text {node value : Node} {key : String} (h : node.get? key = some value)
    (ht : value.text ≠ "") : node.field? key = some value := by
  have hnull : value.isNull = false := Bool.eq_false_iff.2 fun hn => ht (text_of_isNull hn)
  rw [field?_eq_filter, h, Option.filter_some, hnull]
  rfl

theorem get?_of_field? {node value : Node} {key : String} (h : node.field? key = some value) :
    node.get? key = some value := by
  rw [field?_eq_filter] at h
  exact (Option.filter_eq_some_iff.1 h).1

end Node

namespace ResourceType

theorem name_ne_empty (type : ResourceType) : type.name ≠ "" := by
  cases type <;> decide

/-- A type of resources is found by its own name only. -/
theorem find?_name (name : String) (type : ResourceType) :
    all.find? (fun type => type.name = name) = some type ↔ name = type.name := by
  refine ⟨fun h => by simpa [eq_comm] using List.find?_some h, ?_⟩
  rintro rfl
  cases type <;> rfl

/-- The type of a resource is what its text says. -/
theorem of?_eq_some_iff {resource : Node} {type : ResourceType} :
    of? resource = some type ↔
      ∃ node, resource.get? "Type" = some node ∧ node.text = type.name := by
  rw [of?, find?_name]
  constructor
  · intro h
    cases hf : resource.field? "Type" with
    | none => rw [hf] at h; exact absurd h.symm type.name_ne_empty
    | some node => rw [hf] at h; exact ⟨node, Node.get?_of_field? hf, h⟩
  · rintro ⟨node, hget, htext⟩
    rw [Node.field?_eq_some_of_text hget (htext ▸ type.name_ne_empty)]
    exact htext

end ResourceType

/-- The kind of a function is the type of its resource. -/
theorem hasKind_iff {resource : Node} {kind : FunctionKind} :
    HasKind resource kind ↔ ResourceType.of? resource = some kind.resourceType :=
  ResourceType.of?_eq_some_iff.symm

theorem properties?_eq_some_iff {resource : Node} {properties : Entries Node} :
    properties? resource = some properties ↔
      resource.get? "Properties" = some (.map properties) := by
  rw [properties?, Node.field?_eq_filter]
  cases resource.get? "Properties" with
  | none => simp
  | some node => cases node <;> simp [Option.filter_some, Node.isNull, Node.entries?]

theorem describes_iff {resource : Node} {kind : FunctionKind} {properties : Entries Node} :
    Describes resource kind properties ↔ ResourceType.of? resource = some kind.resourceType ∧
      properties? resource = some properties := by
  rw [← hasKind_iff, properties?_eq_some_iff]
  exact ⟨fun h => ⟨h.hasKind, h.properties⟩, fun h => ⟨h.1, h.2⟩⟩

/-- No resource is of two kinds. -/
theorem HasKind.unique {resource : Node} {kind kind' : FunctionKind} (h : HasKind resource kind)
    (h' : HasKind resource kind') : kind = kind' := by
  have htype := (hasKind_iff.1 h).symm.trans (hasKind_iff.1 h')
  cases kind <;> cases kind' <;> first | rfl | exact nomatch htype

theorem Describes.unique {resource : Node} {kind kind' : FunctionKind}
    {properties properties' : Entries Node} (h : Describes resource kind properties)
    (h' : Describes resource kind' properties') : kind = kind' ∧ properties = properties' :=
  ⟨h.hasKind.unique h'.hasKind, by
    have heq := h.properties.symm.trans h'.properties
    cases heq
    rfl⟩

theorem textUnder_functionName (logicalId : String) (properties : Entries Node) :
    textUnder properties "FunctionName" logicalId = effectiveName logicalId properties := by
  rw [textUnder, effectiveName, Node.given?]
  cases properties.get? "FunctionName" with
  | none => rfl
  | some node =>
    cases hn : node.isNull with
    | true => simp [Option.filter_some, hn, Node.text_of_isNull hn]
    | false => simp [Option.filter_some, hn, Node.textOr]

theorem imageUri_lambda (properties : Entries Node) :
    trimmedUnder (((properties.get? "Code").bind Node.entries?).getD []) "ImageUri"
      = FunctionKind.lambda.imageUri properties := by
  rw [trimmedUnder, FunctionKind.imageUri]
  cases properties.get? "Code" with
  | none => rfl
  | some node => cases node <;> rfl

/-! ### What becomes of a resource -/

/-- What becomes of the resource of a logical id, and what is told about it. -/
inductive Extracts (logicalId : String) (resource : Node) :
    Except ImageError (Option FunctionSpec) → List String → Prop
  /-- A function in image mode needs a usable reference. -/
  | unusable {kind : FunctionKind} {properties : Entries Node} :
      Describes resource kind properties → kind.InImageMode properties →
      UnusableUri (kind.imageUri properties) →
      Extracts logicalId resource (.error (kind.imageError logicalId properties)) []
  /-- With a usable reference it is shipped as this image. -/
  | image {kind : FunctionKind} {properties : Entries Node} {function : FunctionSpec} :
      Describes resource kind properties → kind.InImageMode properties →
      ¬ UnusableUri (kind.imageUri properties) →
      function.logicalId = logicalId → function.packaging = .image ⟨kind.imageUri properties⟩ →
      Extracts logicalId resource (.ok (some function)) []
  /-- Another function of the first type is shipped as an archive. -/
  | zip {properties : Entries Node} {function : FunctionSpec} :
      Describes resource .serverless properties →
      ¬ FunctionKind.serverless.InImageMode properties →
      function.logicalId = logicalId → function.isImage = false →
      Extracts logicalId resource (.ok (some function)) []
  /-- Another function of the second type is left out. -/
  | zipNotSupported {properties : Entries Node} :
      Describes resource .lambda properties → ¬ FunctionKind.lambda.InImageMode properties →
      Extracts logicalId resource (.ok none)
        [(Notice.zipNotSupported ResourceType.lambdaFunction.name logicalId).message]
  /-- A function without a mapping of properties is left out. -/
  | withoutProperties {kind : FunctionKind} :
      HasKind resource kind → (∀ properties, ¬ Describes resource kind properties) →
      Extracts logicalId resource (.ok none)
        [(Notice.functionWithoutProperties logicalId).message]
  /-- Other resources are no functions. -/
  | other : (∀ kind, ¬ HasKind resource kind) → Extracts logicalId resource (.ok none) []

/-- A function in image mode that is made of its reference, once this is checked. -/
theorem extracts_image {logicalId : String} {resource : Node} {kind : FunctionKind}
    {properties : Entries Node} (h : Describes resource kind properties)
    (hmode : kind.InImageMode properties) (make : String → FunctionSpec)
    (hid : ∀ source, (make source).logicalId = logicalId)
    (hpackaging : ∀ source, (make source).packaging = .image ⟨source⟩) :
    Extracts logicalId resource
      ((do
        let name := textUnder properties "FunctionName" logicalId
        let source ← checkImageUri name logicalId kind.imageProperty (kind.imageUri properties)
        return make source : Except ImageError FunctionSpec).map some) [] := by
  simp only [textUnder_functionName, checkImageUri]
  -- The three ways in which the check ends.
  by_cases hempty : kind.imageUri properties = ""
  · have herror : Extracts logicalId resource _ [] := .unusable h hmode (.inl hempty)
    rw [FunctionKind.imageError, if_pos hempty] at herror
    simp only [if_pos hempty]
    exact herror
  · by_cases htoken : contains (kind.imageUri properties) "$\x7b" = true
    · have herror : Extracts logicalId resource _ [] := .unusable h hmode (.inr htoken)
      rw [FunctionKind.imageError, if_neg hempty] at herror
      simp only [if_neg hempty, if_pos htoken]
      exact herror
    · simp only [if_neg hempty, if_neg htoken]
      exact .image h hmode (fun hu => hu.elim hempty htoken) (hid _) (hpackaging _)

/-- A serverless function is extracted as an image or from an archive. -/
theorem serverlessFunction_extracts {logicalId : String} {resource : Node}
    {properties : Entries Node} (defaults : FunctionDefaults) (layers : Bindings LayerSpec)
    (h : Describes resource .serverless properties) :
    Extracts logicalId resource
      ((serverlessFunction logicalId properties defaults layers).map some) [] := by
  unfold serverlessFunction
  dsimp only
  split
  · rename_i hmode
    exact extracts_image h hmode (fun source => functionSpec _ _ _ (.image ⟨source⟩) _ _)
      (fun _ => rfl) fun _ => rfl
  · rename_i hmode
    exact .zip h hmode rfl rfl

theorem lambdaFunction_extracts {logicalId : String} {resource : Node} {properties : Entries Node}
    (defaults : FunctionDefaults) (h : Describes resource .lambda properties)
    (hmode : FunctionKind.lambda.InImageMode properties) :
    Extracts logicalId resource
      ((lambdaFunction logicalId properties defaults
        (FunctionKind.lambda.imageUri properties)).map some) [] :=
  extracts_image h hmode (fun source => functionSpec _ _ _ (.image ⟨source⟩) _ _)
    (fun _ => rfl) fun _ => rfl

theorem lambdaImage?_eq (properties : Entries Node) :
    (FunctionKind.lambda.InImageMode properties ∧
      lambdaImage? properties = some (FunctionKind.lambda.imageUri properties)) ∨
    (¬ FunctionKind.lambda.InImageMode properties ∧ lambdaImage? properties = none) := by
  unfold lambdaImage?
  rw [imageUri_lambda]
  by_cases hmode : FunctionKind.lambda.InImageMode properties
  · exact .inl ⟨hmode, if_pos hmode⟩
  · exact .inr ⟨hmode, if_neg hmode⟩

/-- A resource is extracted in one of these ways. -/
theorem function?_tells (defaults : FunctionDefaults) (layers : Bindings LayerSpec)
    (logicalId : String) (resource : Node) :
    ∃ outcome told, Tells (function? defaults layers logicalId resource).run outcome told ∧
      Extracts logicalId resource outcome told := by
  have hnone (kind : FunctionKind) (hp : properties? resource = none) (properties : Entries Node) :
      ¬ Describes resource kind properties := fun h => by
    rw [(describes_iff.1 h).2] at hp
    exact nomatch hp
  unfold function?
  split
  · rename_i htype
    have hkind : HasKind resource .serverless := hasKind_iff.2 htype
    cases hp : properties? resource with
    | none =>
      exact ⟨_, _, (Tells.note _).lift.andThen (.ok _), .withoutProperties hkind (hnone _ hp)⟩
    | some properties =>
      exact ⟨_, _, .ofExcept _ some, serverlessFunction_extracts defaults layers
        (describes_iff.2 ⟨htype, hp⟩)⟩
  · rename_i htype
    have hkind : HasKind resource .lambda := hasKind_iff.2 htype
    cases hp : properties? resource with
    | none =>
      exact ⟨_, _, (Tells.note _).lift.andThen (.ok _), .withoutProperties hkind (hnone _ hp)⟩
    | some properties =>
      have h : Describes resource .lambda properties := describes_iff.2 ⟨htype, hp⟩
      rcases lambdaImage?_eq properties with ⟨hmode, hi⟩ | ⟨hmode, hi⟩
      · simp only [hi]
        exact ⟨_, _, .ofExcept _ some, lambdaFunction_extracts defaults h hmode⟩
      · simp only [hi]
        exact ⟨_, _, (Tells.note _).lift.andThen (.ok _), .zipNotSupported h hmode⟩
  · rename_i hserverless hlambda
    refine ⟨_, _, .ok _, .other fun kind hkind => ?_⟩
    cases kind with
    | serverless => exact hserverless (hasKind_iff.1 hkind)
    | lambda => exact hlambda (hasKind_iff.1 hkind)

/-! ### Going through resources -/

/-- A resource describes a function in image mode without a usable image: the error is
    about it. -/
def Blocks (logicalId : String) (resource : Node) (error : ImageError) : Prop :=
  ∃ kind properties, Describes resource kind properties ∧ kind.InImageMode properties ∧
    UnusableUri (kind.imageUri properties) ∧ error = kind.imageError logicalId properties

section

variable {logicalId : String} {resource : Node} {error : ImageError}
  {function : Option FunctionSpec} {told : List String}

theorem Extracts.blocks (h : Extracts logicalId resource (.error error) told) :
    Blocks logicalId resource error := by
  cases h with
  | unusable h hmode huri => exact ⟨_, _, h, hmode, huri, rfl⟩

/-- A resource that is extracted is not in the way. -/
theorem Extracts.not_blocks (h : Extracts logicalId resource (.ok function) told) :
    ¬ Blocks logicalId resource error := by
  rintro ⟨kind, properties, hd, hmode, huri, -⟩
  cases h with
  | image h _ husable =>
    obtain ⟨rfl, rfl⟩ := h.unique hd
    exact husable huri
  | zip h hzip =>
    obtain ⟨rfl, rfl⟩ := h.unique hd
    exact hzip hmode
  | zipNotSupported h hzip =>
    obtain ⟨rfl, rfl⟩ := h.unique hd
    exact hzip hmode
  | withoutProperties hkind hnone =>
    obtain rfl := hkind.unique hd.hasKind
    exact hnone _ hd
  | other hnone => exact hnone _ hd.hasKind

/-- A function has the logical id of its resource. -/
theorem Extracts.logicalId_eq {function : FunctionSpec}
    (h : Extracts logicalId resource (.ok (some function)) told) :
    function.logicalId = logicalId := by
  cases h with
  | image _ _ _ hid => exact hid
  | zip _ _ hid => exact hid

theorem Extracts.mem_told_of_withoutProperties {kind : FunctionKind}
    (h : Extracts logicalId resource (.ok function) told) (hkind : HasKind resource kind)
    (hnone : ∀ properties, ¬ Describes resource kind properties) :
    (Notice.functionWithoutProperties logicalId).message ∈ told := by
  cases h with
  | image h =>
    obtain rfl := hkind.unique h.hasKind
    exact absurd h (hnone _)
  | zip h =>
    obtain rfl := hkind.unique h.hasKind
    exact absurd h (hnone _)
  | zipNotSupported h =>
    obtain rfl := hkind.unique h.hasKind
    exact absurd h (hnone _)
  | withoutProperties => exact List.mem_singleton_self _
  | other hother => exact absurd hkind (hother _)

theorem Extracts.mem_told_of_zipNotSupported {properties : Entries Node}
    (h : Extracts logicalId resource (.ok function) told)
    (hd : Describes resource .lambda properties)
    (hzip : ¬ FunctionKind.lambda.InImageMode properties) :
    (Notice.zipNotSupported "AWS::Lambda::Function" logicalId).message ∈ told := by
  cases h with
  | image h hmode =>
    obtain ⟨rfl, rfl⟩ := h.unique hd
    exact absurd hmode hzip
  | zip h => exact nomatch (h.unique hd).1
  | zipNotSupported => exact List.mem_singleton_self _
  | withoutProperties hkind hnone =>
    obtain rfl := hkind.unique hd.hasKind
    exact absurd hd (hnone _)
  | other hother => exact absurd hd.hasKind (hother _)

/-- A function is extracted from the resources that are to give one. -/
theorem Extracts.isSome_iff (h : Extracts logicalId resource (.ok function) told) :
    function.isSome ↔ GivesFunction resource := by
  cases h with
  | image h hmode => exact ⟨fun _ => ⟨_, _, h, .inr hmode⟩, fun _ => rfl⟩
  | zip h => exact ⟨fun _ => ⟨_, _, h, .inl rfl⟩, fun _ => rfl⟩
  | zipNotSupported h hzip =>
    refine ⟨fun hsome => (nomatch hsome), fun ⟨kind, properties, hd, hgives⟩ => ?_⟩
    obtain ⟨rfl, rfl⟩ := h.unique hd
    exact absurd hgives (not_or.2 ⟨nofun, hzip⟩)
  | withoutProperties hkind hnone =>
    refine ⟨fun hsome => (nomatch hsome), fun ⟨kind, properties, hd, _⟩ => ?_⟩
    obtain rfl := hkind.unique hd.hasKind
    exact absurd hd (hnone _)
  | other hnone =>
    exact ⟨fun hsome => (nomatch hsome), fun ⟨_, _, hd, _⟩ => absurd hd.hasKind (hnone _)⟩

end

/-- Going through resources stops at one with an error. -/
inductive Stops : List (String × Node) → ImageError → Prop
  | here {logicalId : String} {resource : Node} {rest : List (String × Node)}
      {error : ImageError} {told : List String} :
      Extracts logicalId resource (.error error) told → Stops ((logicalId, resource) :: rest) error
  | later {logicalId : String} {resource : Node} {rest : List (String × Node)}
      {function : Option FunctionSpec} {error : ImageError} {told : List String} :
      Extracts logicalId resource (.ok function) told → Stops rest error →
      Stops ((logicalId, resource) :: rest) error

/-- Going through resources gives these functions, one after the other, and tells this. -/
inductive Gathers : List (String × Node) → List FunctionSpec → List String → Prop
  | nil : Gathers [] [] []
  | cons {logicalId : String} {resource : Node} {rest : List (String × Node)}
      {function : Option FunctionSpec} {functions : List FunctionSpec} {told told' : List String} :
      Extracts logicalId resource (.ok function) told → Gathers rest functions told' →
      Gathers ((logicalId, resource) :: rest) (function.toList ++ functions) (told ++ told')

/-- Collecting the functions of resources stops at one, or goes through all of them. -/
theorem collectFunctionsFrom_tells (defaults : FunctionDefaults) (layers : Bindings LayerSpec)
    (resources : List (String × Node)) :
    (∃ error told,
      Tells (collectFunctionsFrom defaults layers resources).run (.error error) told ∧
        Stops resources error) ∨
    ∃ functions told,
      Tells (collectFunctionsFrom defaults layers resources).run (.ok functions) told ∧
        Gathers resources functions told := by
  induction resources with
  | nil => exact .inr ⟨_, _, .ok _, .nil⟩
  | cons pair rest ih =>
    obtain ⟨logicalId, resource⟩ := pair
    obtain ⟨outcome, told, ht, he⟩ := function?_tells defaults layers logicalId resource
    cases outcome with
    | error error => exact .inl ⟨error, told, ht.fail _, .here he⟩
    | ok function =>
      rcases ih with ⟨error, told', ht', hs⟩ | ⟨functions, told', ht', hg⟩
      · exact .inl ⟨error, _, ht.andThen (ht'.fail _), .later he hs⟩
      · refine .inr ⟨_, _, ?_, .cons he hg⟩
        rw [← List.append_nil told']
        exact ht.andThen (ht'.andThen (.ok _))

theorem collectFunctions_tells (resources : Entries Node) (defaults : FunctionDefaults)
    (layers : Bindings LayerSpec) :
    ∃ outcome told, Tells (collectFunctions resources defaults layers).run outcome told := by
  rcases collectFunctionsFrom_tells defaults layers resources.inKeyOrder with
    ⟨error, told, ht, -⟩ | ⟨functions, told, ht, -⟩
  · exact ⟨_, told, ht⟩
  · exact ⟨_, told, ht⟩

section

variable {resources : List (String × Node)} {functions : List FunctionSpec} {error : ImageError}
  {told : List String}

/-- The error is about the first resource that is in the way. -/
theorem Stops.first_blocks (h : Stops resources error) :
    ∃ before entry after, resources = before ++ entry :: after ∧ Blocks entry.1 entry.2 error ∧
      ∀ other ∈ before, ∀ error', ¬ Blocks other.1 other.2 error' := by
  induction h with
  | @here logicalId resource rest _ _ he =>
    exact ⟨[], (logicalId, resource), rest, rfl, he.blocks, by simp⟩
  | @later logicalId resource _ _ _ _ he _ ih =>
    obtain ⟨before, entry, after, rfl, hblocks, hbefore⟩ := ih
    exact ⟨(logicalId, resource) :: before, entry, after, rfl, hblocks,
      List.forall_mem_cons.2 ⟨fun _ => he.not_blocks, hbefore⟩⟩

namespace Gathers

/-- Each resource is extracted, and what it gives and tells is kept. -/
theorem extracts (h : Gathers resources functions told) :
    ∀ entry ∈ resources, ∃ function told', Extracts entry.1 entry.2 (.ok function) told' ∧
      (∀ f ∈ function, f ∈ functions) ∧ ∀ m ∈ told', m ∈ told := by
  induction h with
  | nil => simp
  | @cons logicalId resource rest function functions told told' he _ ih =>
    refine List.forall_mem_cons.2 ⟨⟨function, told, he, ?_, ?_⟩, fun entry hmem => ?_⟩
    · exact fun f hf => List.mem_append_left _ (Option.mem_toList.2 hf)
    · exact fun m hm => List.mem_append_left _ hm
    · obtain ⟨function, told', he, hf, ht⟩ := ih entry hmem
      exact ⟨function, told', he, fun f hmem => List.mem_append_right _ (hf f hmem),
        fun m hm => List.mem_append_right _ (ht m hm)⟩

/-- A function that is gathered was extracted from a resource. -/
theorem exists_of_mem (h : Gathers resources functions told) :
    ∀ f ∈ functions, ∃ entry ∈ resources, ∃ told',
      Extracts entry.1 entry.2 (.ok (some f)) told' := by
  induction h with
  | nil => simp
  | @cons logicalId resource rest function functions told told' he _ ih =>
    intro f hf
    rcases List.mem_append.1 hf with hf | hf
    · obtain rfl := Option.mem_toList.1 hf
      exact ⟨(logicalId, resource), List.mem_cons_self, told, he⟩
    · obtain ⟨entry, hmem, he⟩ := ih f hf
      exact ⟨entry, List.mem_cons_of_mem _ hmem, he⟩

/-- The functions come in the order of their resources, at most one of each. -/
theorem ids_sublist (h : Gathers resources functions told) :
    (functions.map (·.logicalId)).Sublist (Entries.keys resources) := by
  induction h with
  | nil => exact .slnil
  | @cons _ _ _ function _ _ _ he _ ih =>
    cases function with
    | none => exact ih.cons _
    | some function =>
      have hid := he.logicalId_eq
      exact hid ▸ ih.cons_cons _

/-- A logical id has a function if and only if its resource is to give one. -/
theorem mem_ids_iff (h : Gathers resources functions told) {logicalId : String} :
    logicalId ∈ functions.map (·.logicalId)
      ↔ ∃ resource, (logicalId, resource) ∈ resources ∧ GivesFunction resource := by
  constructor
  · intro hmem
    obtain ⟨f, hf, rfl⟩ := List.mem_map.1 hmem
    obtain ⟨entry, hentry, told', he⟩ := h.exists_of_mem f hf
    rw [he.logicalId_eq]
    exact ⟨entry.2, hentry, he.isSome_iff.1 rfl⟩
  · rintro ⟨resource, hmem, hgives⟩
    obtain ⟨function, told', he, hkept, -⟩ := h.extracts _ hmem
    obtain ⟨f, rfl⟩ := Option.isSome_iff_exists.1 (he.isSome_iff.2 hgives)
    exact List.mem_map.2 ⟨f, hkept f rfl, he.logicalId_eq⟩

end Gathers

end

end SamTemplate
