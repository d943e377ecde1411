import SamTemplate.Output.Basic
import SamTemplate.Schema

/-!
# The schemas of the output

Each type of output has a schema, published under a name of its own; together
with the schema of a whole compilation they are `Compilation.schema`. A member
that may be left out either has a default or admits `null`.
-/

namespace SamTemplate

namespace Schema

/-- An optional text. -/
def optionalText : Schema := .nullable .text

/-- An optional whole number. -/
def optionalWhole : Schema := .nullable .whole

/-- A list that is empty if it is left out. -/
def absentOrList (element : Schema) : Schema := .defaulting (.arr []) (.listOf element)

end Schema

open Schema

/-- Layers. -/
def LayerSpec.schema : Schema :=
  .record [
    ("name", .text),
    ("content_uri", .described "Always ends with `/`" .text),
    ("compatible_architectures", absentOrList .text)]
    ["name", "content_uri"]

/-- Packages of either shape, whose `kind` is the name of the shape. -/
def Packaging.schema : Schema :=
  .described "Exactly one packaging group per function." (.oneOf [
    .record [
      ("kind", .word "zip"),
      ("runtime", .text),
      ("handler", .text),
      ("code_uri", .described "Always ends with `/`" .text),
      ("has_requirements",
        .described "Set by the staging step, never by the compiler"
          (.defaulting (.bool false) .truth)),
      ("layers", absentOrList (.named "LayerSpec"))]
      ["kind", "runtime", "handler", "code_uri"],
    .record [
      ("kind", .word "image"),
      ("image_source", .described "Fully resolved image reference" .text)]
      ["kind", "image_source"]])

/-- Bounds on the number of instances. -/
def Scaling.schema : Schema :=
  .record [
    ("max_capacity", .described "`ReservedConcurrentExecutions`" optionalWhole),
    ("min_capacity",
      .described "`ProvisionedConcurrencyConfig.ProvisionedConcurrentExecutions`" optionalWhole)]
    []

/-- Events of either shape, whose `type` is the name of the shape. -/
def Event.schema : Schema :=
  .oneOf [
    .record [
      ("type", .word "Api"),
      ("path", .text),
      ("method", .described "Lower-cased" .text)]
      ["type", "path", "method"],
    .record [
      ("type", .word "Schedule"),
      ("expression", .text),
      ("input", optionalText)]
      ["type", "expression"]]

/-- Triggers of updates. -/
def RuntimeManagement.schema : Schema :=
  .record [("update_runtime_on", .text)] ["update_runtime_on"]

/-- Functions. What `FunctionSpec.read` asks for is required. -/
def FunctionSpec.schema : Schema :=
  .described "A deployable function with every default applied." (.record [
    ("logical_id", .described "Key under `Resources`" .text),
    ("name", .described "`FunctionName`, or the logical id" .text),
    ("packaging", .described "How the function's code is shipped" (.named "Packaging")),
    ("timeout", .described "Seconds" .whole),
    ("memory_size", .described "MiB" .whole),
    ("environment",
      .described "Globals environment merged with the function's own"
        (.defaulting (.obj []) (.mapOf .text))),
    ("architectures", absentOrList .text),
    ("scaling", .defaulting (.obj []) (.named "ScalingSpec")),
    ("events", .described "Sorted by event name" (absentOrList (.named "EventSpec"))),
    ("runtime_management", .nullable (.named "RuntimeManagement"))]
    ["logical_id", "name", "packaging", "timeout", "memory_size"])

/-- Parts of keys. -/
def KeyElement.schema : Schema :=
  .record [("AttributeName", .text), ("KeyType", .text)] ["AttributeName", "KeyType"]

/-- Attributes of tables. -/
def AttributeDefinition.schema : Schema :=
  .record [("AttributeName", .text), ("AttributeType", .text)] ["AttributeName", "AttributeType"]

/-- Reserved capacities. -/
def Throughput.schema : Schema :=
  .record [("ReadCapacityUnits", .whole), ("WriteCapacityUnits", .whole)]
    ["ReadCapacityUnits", "WriteCapacityUnits"]

/-- Attributes of indexes. Their list has no default, since an empty one is not written. -/
def Projection.schema : Schema :=
  .record [("NonKeyAttributes", .listOf .text), ("ProjectionType", optionalText)] []

/-- Indexes. -/
def SecondaryIndex.schema : Schema :=
  .record [
    ("IndexName", .text),
    ("KeySchema", absentOrList (.named "KeySchemaElement")),
    ("Projection", .nullable (.named "Projection")),
    ("ProvisionedThroughput", .nullable (.named "ProvisionedThroughput"))]
    ["IndexName"]

/-- Tables. -/
def TableSpec.schema : Schema :=
  .record [
    ("TableName", .text),
    ("KeySchema", absentOrList (.named "KeySchemaElement")),
    ("AttributeDefinitions", absentOrList (.named "AttributeDefinition")),
    ("GlobalSecondaryIndexes", absentOrList (.named "GlobalSecondaryIndex")),
    ("BillingMode", .text),
    ("ProvisionedThroughput", .nullable (.named "ProvisionedThroughput"))]
    ["TableName", "BillingMode"]

/-- Rules of buckets. -/
def LifecycleRule.schema : Schema :=
  .record [
    ("Id", optionalText),
    ("Status", .text),
    ("Prefix", optionalText),
    ("ExpirationInDays", optionalWhole)]
    ["Status"]

/-- The rules of a bucket together. -/
def Lifecycle.schema : Schema :=
  .record [("Rules", absentOrList (.named "LifecycleRule"))] []

/-- Buckets. -/
def BucketSpec.schema : Schema :=
  .record [
    ("BucketName", .text),
    ("LifecycleConfiguration", .nullable (.named "LifecycleConfiguration"))]
    ["BucketName"]

/-- What functions stand on. -/
def ResourceSpecs.schema : Schema :=
  .described "Backing resources and layers, each list sorted by logical id." (.record [
    ("dynamodb", absentOrList (.named "DynamoDbSpec")),
    ("s3", absentOrList (.named "S3Spec")),
    ("layers", absentOrList (.named "LayerSpec"))]
    [])

/-- The schema of a whole compilation, with the names under which the others are
    published. -/
def Compilation.schema : SchemaDocument where
  title := "ParseResult"
  root := .described "Output of one compile call." (.record [
    ("functions",
      .described "Functions, sorted by name" (absentOrList (.named "FunctionSpec"))),
    ("resources",
      .defaulting (.obj [("dynamodb", .arr []), ("layers", .arr []), ("s3", .arr [])])
        (.named "ResourcesSpec")),
    ("warnings",
      .described "Non-fatal diagnostics, de-duplicated, first-seen order" (absentOrList .text))]
    [])
  definitions := [
    ("AttributeDefinition", AttributeDefinition.schema),
    ("DynamoDbSpec", TableSpec.schema),
    ("EventSpec", Event.schema),
    ("FunctionSpec", FunctionSpec.schema),
    ("GlobalSecondaryIndex", SecondaryIndex.schema),
    ("KeySchemaElement", KeyElement.schema),
    ("LayerSpec", LayerSpec.schema),
    ("LifecycleConfiguration", Lifecycle.schema),
    ("LifecycleRule", LifecycleRule.schema),
    ("Packaging", Packaging.schema),
    ("Projection", Projection.schema),
    ("ProvisionedThroughput", Throughput.schema),
    ("ResourcesSpec", ResourceSpecs.schema),
    ("RuntimeManagement", RuntimeManagement.schema),
    ("S3Spec", BucketSpec.schema),
    ("ScalingSpec", Scaling.schema)]

end SamTemplate
