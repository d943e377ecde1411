import SamTemplate.Extraction.Resources
import SamTemplate.Text.Pieces

/-!
# Functions

The functions of a template, each with its own settings over the defaults. A
function that is shipped as an image needs a complete reference to it; one that
is missing or still has tokens in it makes the compilation fail.
-/

namespace SamTemplate

/-- Why the functions of a template cannot be compiled. The function is given by
    its name and logical id, with the property that the reference is taken from. -/
inductive ImageError where
  /-- There is no reference to the image. -/
  | missing (name logicalId property : String)
  /-- The reference still has a token in it. -/
  | unresolved (name logicalId property uri : String)
  deriving DecidableEq, Repr

namespace ImageError

/-- The logical id of the function. -/
def logicalId : ImageError → String
  | missing _ logicalId _ => logicalId
  | unresolved _ logicalId _ _ => logicalId

/-- The words for an error. -/
def message : ImageError → String
  | missing name logicalId property =>
    "image function " ++ name ++ " (" ++ logicalId ++ ") requires " ++ property
  | unresolved name logicalId property uri =>
    "image function " ++ name ++ " (" ++ logicalId ++ ") has unresolved " ++ property ++ ": "
      ++ uri

end ImageError

/-- The reference to an image, which is not empty and has no token in it. -/
def checkImageUri (name logicalId property uri : String) : Except ImageError String :=
  if uri = "" then .error (.missing name logicalId property)
  else if contains uri "$\x7b" then .error (.unresolved name logicalId property uri)
  else .ok uri

/-- The event that a block of settings describes: requests need a path and a
    method, schedules an expression. Other events are left out. -/
def event? (event : Node) : Option Event := do
  let properties ← properties? event
  let text (key : String) : String := ((Entries.get? key properties).map Node.text).getD ""
  let type ← event.get? "Type"
  if type.text = "Api" then
    if text "Path" = "" ∨ text "Method" = "" then none
    else some (.api (text "Path") (lowerCase (text "Method")))
  else if type.text = "Schedule" then
    if text "Schedule" = "" then none
    else
      let input := text "Input"
      some (.schedule (text "Schedule") (if input = "" then none else some input))
  else none

/-- The events of a mapping, in the order of their names. -/
def eventsOf (events : Node) : List Event :=
  (Entries.inKeyOrder (events.entries?.getD [])).filterMap fun (_, event) => event? event

/-- The logical id that a layer is referred to by: a text, or a reference that
    has not been resolved. -/
def layerId? : Node → Option String
  | .str id => some id
  | node => (node.get? "Ref").map Node.text

/-- The layers that are referred to, in order. Unknown ones are left out. -/
def layersOf (references : List Node) (layers : Bindings LayerSpec) : List LayerSpec :=
  references.filterMap fun reference => do
    let id ← layerId? reference
    if id = "" then none else layers.get? id

/-- The environment of a function: its own variables over those of all. -/
def environmentOf (defaults : Bindings String) (properties : Entries Node) : Bindings String :=
  match (properties.get? "Environment").bind (·.field? "Variables") with
  | some own => defaults.insertAll (environmentVariables own).entries
  | none => defaults

/-- How many instances of a function may run. -/
def scalingOf (properties : Entries Node) : Scaling where
  maxCapacity := (properties.get? "ReservedConcurrentExecutions").bind Node.int?
  minCapacity :=
    ((properties.get? "ProvisionedConcurrencyConfig").bind
      (·.get? "ProvisionedConcurrentExecutions")).bind Node.int?

/-- A function with the settings that do not depend on its packaging. -/
def functionSpec (logicalId : String) (properties : Entries Node) (defaults : FunctionDefaults)
    (packaging : Packaging) (events : List Event) (runtimeManagement : Option RuntimeManagement) :
    FunctionSpec :=
  let int (key : String) (fallback : Int64) : Int64 :=
    ((Node.given? properties key).bind Node.int?).getD fallback
  { logicalId
    name := textUnder properties "FunctionName" logicalId
    packaging
    timeout := int "Timeout" defaults.timeout
    memorySize := int "MemorySize" defaults.memorySize
    environment := environmentOf defaults.environment properties
    architectures :=
      ((Node.given? properties "Architectures").map Node.texts).getD defaults.architectures
    scaling := scalingOf properties
    events
    runtimeManagement }

/-- The code of a function that is shipped as an archive. -/
def codePackage (properties : Entries Node) (defaults : FunctionDefaults)
    (layers : Bindings LayerSpec) : CodePackage where
  runtime := textUnder properties "Runtime" defaults.runtime
  handler := textUnder properties "Handler" defaults.handler
  codeUri := withTrailingSlash (textUnder properties "CodeUri" defaultCodeUri)
  hasRequirements := false
  layers := layersOf
    (((Node.given? properties "Layers").map Node.items).getD (defaults.layers.getD [])) layers

/-- The text under a key without blanks at its ends; empty if it is absent. -/
def trimmedUnder (properties : Entries Node) (key : String) : String :=
  trim (((properties.get? key).map Node.text).getD "")

/-- A function that may be shipped either way. It is shipped as an image if it
    says so or refers to one. -/
def serverlessFunction (logicalId : String) (properties : Entries Node)
    (defaults : FunctionDefaults) (layers : Bindings LayerSpec) : Except ImageError FunctionSpec :=
  let packageType := ((properties.get? "PackageType").map Node.text).getD ""
  let uri := trimmedUnder properties "ImageUri"
  let events := ((properties.get? "Events").map eventsOf).getD []
  if eqIgnoringAsciiCase packageType "Image" ∨ uri ≠ "" then do
    let name := textUnder properties "FunctionName" logicalId
    let imageSource ← checkImageUri name logicalId "ImageUri" uri
    return functionSpec logicalId properties defaults (.image ⟨imageSource⟩) events none
  else
    let trigger := ((properties.get? "RuntimeManagementConfig").bind updateTrigger?).or
      defaults.updateRuntimeOn
    .ok (functionSpec logicalId properties defaults (.zip (codePackage properties defaults layers))
      events (trigger.map RuntimeManagement.mk))

/-- The package type and the reference to an image of a function that is only
    read if it is shipped as an image. -/
def lambdaImage? (properties : Entries Node) : Option String :=
  let packageType := trimmedUnder properties "PackageType"
  let uri := trimmedUnder (((properties.get? "Code").bind Node.entries?).getD []) "ImageUri"
  if eqIgnoringAsciiCase packageType "Image" ∨ uri ≠ "" then some uri else none

/-- A function that is shipped as an image. -/
def lambdaFunction (logicalId : String) (properties : Entries Node) (defaults : FunctionDefaults)
    (uri : String) : Except ImageError FunctionSpec := do
  let name := textUnder properties "FunctionName" logicalId
  let imageSource ← checkImageUri name logicalId "Code.ImageUri" uri
  return functionSpec logicalId properties defaults (.image ⟨imageSource⟩) [] none

/-- The function that a resource describes, if it is one that is read. -/
def function? (defaults : FunctionDefaults) (layers : Bindings LayerSpec) (logicalId : String)
    (resource : Node) : ExceptT ImageError Collecting (Option FunctionSpec) := do
  match ResourceType.of? resource with
  | some .serverlessFunction =>
    match properties? resource with
    | none =>
      Collecting.note (.functionWithoutProperties logicalId)
      return none
    | some properties =>
      return some (← serverlessFunction logicalId properties defaults layers)
  | some .lambdaFunction =>
    match properties? resource with
    | none =>
      Collecting.note (.functionWithoutProperties logicalId)
      return none
    | some properties =>
      match lambdaImage? properties with
      | none =>
        Collecting.note (.zipNotSupported ResourceType.lambdaFunction.name logicalId)
        return none
      | some uri => return some (← lambdaFunction logicalId properties defaults uri)
  | _ => return none

/-- The functions among resources, in their order. -/
def collectFunctionsFrom (defaults : FunctionDefaults) (layers : Bindings LayerSpec) :
    List (String × Node) → ExceptT ImageError Collecting (List FunctionSpec)
  | [] => return []
  | (logicalId, resource) :: rest => do
    let function ← function? defaults layers logicalId resource
    let functions ← collectFunctionsFrom defaults layers rest
    return function.toList ++ functions

/-- The functions of a template, in the order of their logical ids. -/
def collectFunctions (resources : Entries Node) (defaults : FunctionDefaults)
    (layers : Bindings LayerSpec) : ExceptT ImageError Collecting (List FunctionSpec) :=
  collectFunctionsFrom defaults layers resources.inKeyOrder

end SamTemplate
