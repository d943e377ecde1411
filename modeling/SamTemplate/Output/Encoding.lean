import SamTemplate.Json.Basic
import SamTemplate.Output.Basic

/-!
# The JSON form of the output

Each type of output as JSON. The members of a record are in the order of its
fields, an optional value that is absent has no member, and a choice between
shapes starts with a member that names the shape.
-/

namespace SamTemplate

namespace Json

/-- The JSON of a 64-bit integer. -/
def ofInt64 (value : Int64) : Json := .int value.toInt

/-- A member that is left out if it has no value. -/
def optional {α : Type} (name : String) (f : α → Json) : Option α → List (String × Json)
  | none => []
  | some value => [(name, f value)]

end Json

/-- A layer. -/
def LayerSpec.toJson (layer : LayerSpec) : Json :=
  .obj [
    ("name", .str layer.name),
    ("content_uri", .str layer.contentUri),
    ("compatible_architectures", .ofTexts layer.compatibleArchitectures)]

/-- The members of the JSON of a code package. -/
def CodePackage.members (code : CodePackage) : List (String × Json) := [
  ("runtime", .str code.runtime),
  ("handler", .str code.handler),
  ("code_uri", .str code.codeUri),
  ("has_requirements", .bool code.hasRequirements),
  ("layers", .arr (code.layers.map LayerSpec.toJson))]

/-- Code shipped as an archive, on its own. -/
def CodePackage.toJson (code : CodePackage) : Json := .obj code.members

/-- The members of the JSON of an image package. -/
def ImagePackage.members (image : ImagePackage) : List (String × Json) :=
  [("image_source", .str image.imageSource)]

/-- Code shipped as an image, on its own. -/
def ImagePackage.toJson (image : ImagePackage) : Json := .obj image.members

/-- A package: the name of its shape and the members of the code. -/
def Packaging.toJson : Packaging → Json
  | .zip code => .obj (("kind", .str "zip") :: code.members)
  | .image package => .obj (("kind", .str "image") :: package.members)

/-- How many instances may run; empty if there are no bounds. -/
def Scaling.toJson (scaling : Scaling) : Json :=
  .obj (Json.optional "max_capacity" .ofInt64 scaling.maxCapacity
    ++ Json.optional "min_capacity" .ofInt64 scaling.minCapacity)

/-- An event: the name of its shape and what starts the function. -/
def Event.toJson : Event → Json
  | .api path method => .obj [("type", .str "Api"), ("path", .str path), ("method", .str method)]
  | .schedule expression input =>
    .obj ([("type", .str "Schedule"), ("expression", .str expression)]
      ++ Json.optional "input" .str input)

/-- What triggers an update of the runtime. -/
def RuntimeManagement.toJson (management : RuntimeManagement) : Json :=
  .obj [("update_runtime_on", .str management.updateRuntimeOn)]

/-- A function. Only the update of its runtime can be missing. -/
def FunctionSpec.toJson (function : FunctionSpec) : Json :=
  .obj ([
    ("logical_id", .str function.logicalId),
    ("name", .str function.name),
    ("packaging", function.packaging.toJson),
    ("timeout", .ofInt64 function.timeout),
    ("memory_size", .ofInt64 function.memorySize),
    ("environment", .ofBindings .str function.environment),
    ("architectures", .ofTexts function.architectures),
    ("scaling", function.scaling.toJson),
    ("events", .arr (function.events.map Event.toJson))]
    ++ Json.optional "runtime_management" RuntimeManagement.toJson function.runtimeManagement)

/-- A part of a key. -/
def KeyElement.toJson (element : KeyElement) : Json :=
  .obj [("AttributeName", .str element.attributeName), ("KeyType", .str element.keyType)]

/-- An attribute. -/
def AttributeDefinition.toJson (definition : AttributeDefinition) : Json :=
  .obj [
    ("AttributeName", .str definition.attributeName),
    ("AttributeType", .str definition.attributeType)]

/-- A reserved capacity. -/
def Throughput.toJson (throughput : Throughput) : Json :=
  .obj [
    ("ReadCapacityUnits", .ofInt64 throughput.readCapacityUnits),
    ("WriteCapacityUnits", .ofInt64 throughput.writeCapacityUnits)]

/-- The attributes that an index holds, of which an empty list is left out. -/
def Projection.toJson (projection : Projection) : Json :=
  .obj ((if projection.nonKeyAttributes.isEmpty then []
      else [("NonKeyAttributes", .ofTexts projection.nonKeyAttributes)])
    ++ Json.optional "ProjectionType" .str projection.projectionType)

/-- An index. -/
def SecondaryIndex.toJson (index : SecondaryIndex) : Json :=
  .obj ([
    ("IndexName", .str index.indexName),
    ("KeySchema", .arr (index.keySchema.map KeyElement.toJson))]
    ++ Json.optional "Projection" Projection.toJson index.projection
    ++ Json.optional "ProvisionedThroughput" Throughput.toJson index.provisionedThroughput)

/-- A table. -/
def TableSpec.toJson (table : TableSpec) : Json :=
  .obj ([
    ("TableName", .str table.tableName),
    ("KeySchema", .arr (table.keySchema.map KeyElement.toJson)),
    ("AttributeDefinitions", .arr (table.attributeDefinitions.map AttributeDefinition.toJson)),
    ("GlobalSecondaryIndexes", .arr (table.globalSecondaryIndexes.map SecondaryIndex.toJson)),
    ("BillingMode", .str table.billingMode)]
    ++ Json.optional "ProvisionedThroughput" Throughput.toJson table.provisionedThroughput)

/-- A rule. -/
def LifecycleRule.toJson (rule : LifecycleRule) : Json :=
  .obj (Json.optional "Id" .str rule.id
    ++ [("Status", .str rule.status)]
    ++ Json.optional "Prefix" .str rule.namePrefix
    ++ Json.optional "ExpirationInDays" .ofInt64 rule.expirationInDays)

/-- The rules of a bucket. -/
def Lifecycle.toJson (lifecycle : Lifecycle) : Json :=
  .obj [("Rules", .arr (lifecycle.rules.map LifecycleRule.toJson))]

/-- A bucket. -/
def BucketSpec.toJson (bucket : BucketSpec) : Json :=
  .obj ([("BucketName", .str bucket.bucketName)]
    ++ Json.optional "LifecycleConfiguration" Lifecycle.toJson bucket.lifecycleConfiguration)

/-- What functions stand on, with all three lists even if they are empty. -/
def ResourceSpecs.toJson (specs : ResourceSpecs) : Json :=
  .obj [
    ("dynamodb", .arr (specs.tables.map TableSpec.toJson)),
    ("s3", .arr (specs.buckets.map BucketSpec.toJson)),
    ("layers", .arr (specs.layers.map LayerSpec.toJson))]

/-- A whole compilation. -/
def Compilation.toJson (compilation : Compilation) : Json :=
  .obj [
    ("functions", .arr (compilation.functions.map FunctionSpec.toJson)),
    ("resources", compilation.resources.toJson),
    ("warnings", .ofTexts compilation.warnings)]

end SamTemplate
