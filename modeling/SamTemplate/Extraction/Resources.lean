import SamTemplate.Extraction.Defaults
import SamTemplate.Notice
import SamTemplate.Output.Decoding
import SamTemplate.Text.Case

/-!
# Layers, tables and buckets

What the functions of a template stand on, read from its resources in the order
of their logical ids, so that the order of the document does not matter. A
property that does not have the form its resource asks for costs only itself:
it counts as not given, and a notice says why.
-/

namespace SamTemplate

/-- Collecting output while notices are made. -/
abbrev Collecting := StateM Warnings

/-- Makes a notice. -/
def Collecting.note (notice : Notice) : Collecting Unit := modify (·.add notice.message)

/-- The types of resources that are read. -/
inductive ResourceType where
  /-- A function, shipped either way. -/
  | serverlessFunction
  /-- A function that is only read if shipped as an image. -/
  | lambdaFunction
  /-- A layer. -/
  | layer
  /-- A table. -/
  | table
  /-- A bucket. -/
  | bucket
  deriving DecidableEq, Repr

namespace ResourceType

/-- The name of a type in templates. -/
def name : ResourceType → String
  | serverlessFunction => "AWS::Serverless::Function"
  | lambdaFunction => "AWS::Lambda::Function"
  | layer => "AWS::Serverless::LayerVersion"
  | table => "AWS::DynamoDB::Table"
  | bucket => "AWS::S3::Bucket"

/-- All types. -/
def all : List ResourceType := [serverlessFunction, lambdaFunction, layer, table, bucket]

/-- The type of a resource, if it is one of those that are read. -/
def of? (resource : Node) : Option ResourceType :=
  let name := ((resource.field? "Type").map Node.text).getD ""
  all.find? fun type => type.name = name

end ResourceType

/-- The properties of a resource, if they are a mapping. -/
def properties? (resource : Node) : Option (Entries Node) :=
  (resource.field? "Properties").bind Node.entries?

/-- The text under a key, or another one if it is absent or empty. -/
def textUnder (properties : Entries Node) (key fallback : String) : String :=
  ((Node.given? properties key).map (·.textOr fallback)).getD fallback

/-- The layer that a resource describes. -/
def layerSpec (logicalId : String) (properties : Entries Node) : LayerSpec where
  name := textUnder properties "LayerName" logicalId
  contentUri := withTrailingSlash (textUnder properties "ContentUri" defaultCodeUri)
  compatibleArchitectures :=
    ((Node.given? properties "CompatibleArchitectures").map Node.texts).getD []

/-- The layers by logical id: every layer resource with properties. -/
def collectLayers (resources : Entries Node) : Bindings LayerSpec :=
  .ofList (resources.inKeyOrder.filterMap fun (logicalId, resource) =>
    if ResourceType.of? resource = some .layer then
      (properties? resource).map fun properties => (logicalId, layerSpec logicalId properties)
    else none)

/-- A property of a resource read as a typed value. -/
def readProperty {α : Type} (read : Reader α) (owner logicalId : String)
    (properties : Entries Node) (key : String) : Collecting (Option α) := do
  match Node.given? properties key with
  | none => return none
  | some node =>
    match read node.toJson with
    | .ok value => return some value
    | .error misfit =>
      Collecting.note (.malformedProperty key owner logicalId misfit.message)
      return none

/-- The table that a resource describes. -/
def tableSpec (logicalId : String) (properties : Entries Node) : Collecting TableSpec := do
  let owner := "DynamoDB table"
  let keySchema ← readProperty (.list KeyElement.read) owner logicalId properties "KeySchema"
  let attributeDefinitions ←
    readProperty (.list AttributeDefinition.read) owner logicalId properties "AttributeDefinitions"
  let globalSecondaryIndexes ←
    readProperty (.list SecondaryIndex.read) owner logicalId properties "GlobalSecondaryIndexes"
  let provisionedThroughput ←
    readProperty Throughput.read owner logicalId properties "ProvisionedThroughput"
  return {
    tableName := textUnder properties "TableName" logicalId
    keySchema := keySchema.getD []
    attributeDefinitions := attributeDefinitions.getD []
    globalSecondaryIndexes := globalSecondaryIndexes.getD []
    billingMode := textUnder properties "BillingMode" defaultBillingMode
    provisionedThroughput }

/-- The bucket that a resource describes. -/
def bucketSpec (logicalId : String) (properties : Entries Node) : Collecting BucketSpec := do
  let lifecycleConfiguration ←
    readProperty Lifecycle.read "S3 bucket" logicalId properties "LifecycleConfiguration"
  return {
    bucketName := textUnder properties "BucketName" (lowerCase logicalId)
    lifecycleConfiguration }

/-- Adds the tables and buckets among resources to those already collected. -/
def collectBackingFrom : List (String × Node) → Collecting ResourceSpecs
  | [] => return .empty
  | (logicalId, resource) :: rest => do
    let properties := (properties? resource).getD []
    match ResourceType.of? resource with
    | some .table =>
      let table ← tableSpec logicalId properties
      let specs ← collectBackingFrom rest
      return { specs with tables := table :: specs.tables }
    | some .bucket =>
      let bucket ← bucketSpec logicalId properties
      let specs ← collectBackingFrom rest
      return { specs with buckets := bucket :: specs.buckets }
    | _ => collectBackingFrom rest

/-- The tables and buckets, without the layers. -/
def collectBacking (resources : Entries Node) : Collecting ResourceSpecs :=
  collectBackingFrom resources.inKeyOrder

end SamTemplate
