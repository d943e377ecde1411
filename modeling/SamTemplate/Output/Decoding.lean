import SamTemplate.Output.Basic
import SamTemplate.Output.Record

/-!
# Reading the output back

The reader of each type of output. Readers of what templates write themselves,
the properties of tables and buckets, are lenient about single values.
-/

namespace SamTemplate

open Reader

/-- A layer. Its list of architectures is empty if it is left out. -/
def LayerSpec.read (stage : Stage) : Reader LayerSpec :=
  record stage "struct LayerSpec" <|
    ((Fields.nothing LayerSpec.mk).required "name" text
      |>.required "content_uri" text
      |>.optional "compatible_architectures" (list text) [])

/-- Code shipped as an archive. It brings no list of dependencies and no layers unless
    it says so. -/
def CodePackage.read (stage : Stage) : Reader CodePackage :=
  record stage "struct CodePackage" <|
    ((Fields.nothing CodePackage.mk).required "runtime" text
      |>.required "handler" text
      |>.required "code_uri" text
      |>.optional "has_requirements" bool false
      |>.optional "layers" (list (LayerSpec.read stage)) [])

/-- Code shipped as an image, whose reference has to be given. -/
def ImagePackage.read (stage : Stage) : Reader ImagePackage :=
  record stage "struct ImagePackage" ((Fields.nothing ImagePackage.mk).required "image_source" text)

/-- A package. The member `kind` names the shape, and the others are set aside until
    it is known. -/
def Packaging.read : Reader Packaging :=
  shaped "kind" "Packaging" [
    ("zip", fun json => (CodePackage.read .setAside json).map .zip),
    ("image", fun json => (ImagePackage.read .setAside json).map .image)]

/-- How many instances may run. A bound that is left out or `null` is none. -/
def Scaling.read : Reader Scaling :=
  record .direct "struct ScalingSpec" <|
    ((Fields.nothing Scaling.mk).optional "max_capacity" (optional int64) none
      |>.optional "min_capacity" (optional int64) none)

/-- An event. The member `type` names the shape. -/
def Event.read : Reader Event :=
  shaped "type" "EventSpec" [
    ("Api", record .setAside "struct variant EventSpec::Api" <|
      ((Fields.nothing Event.api).required "path" text |>.required "method" text)),
    ("Schedule", record .setAside "struct variant EventSpec::Schedule" <|
      ((Fields.nothing Event.schedule).required "expression" text
        |>.optional "input" (optional text) none))]

/-- What triggers an update of the runtime. -/
def RuntimeManagement.read : Reader RuntimeManagement :=
  record .direct "struct RuntimeManagement"
    ((Fields.nothing RuntimeManagement.mk).required "update_runtime_on" text)

/-- A function. What has a default when it is compiled may be left out, apart from its
    time and memory. -/
def FunctionSpec.read : Reader FunctionSpec :=
  record .direct "struct FunctionSpec" <|
    ((Fields.nothing FunctionSpec.mk).required "logical_id" text
      |>.required "name" text
      |>.required "packaging" Packaging.read
      |>.required "timeout" int64
      |>.required "memory_size" int64
      |>.optional "environment" (bindings text) .empty
      |>.optional "architectures" (list text) []
      |>.optional "scaling" Scaling.read ⟨none, none⟩
      |>.optional "events" (list Event.read) []
      |>.optional "runtime_management" (optional RuntimeManagement.read) none)

/-- A part of a key, both of whose texts may be written as numbers or truth values. -/
def KeyElement.read : Reader KeyElement :=
  record .direct "struct KeySchemaElement" <|
    ((Fields.nothing KeyElement.mk).required "AttributeName" lenientText
      |>.required "KeyType" lenientText)

/-- An attribute, read as leniently as a part of a key. -/
def AttributeDefinition.read : Reader AttributeDefinition :=
  record .direct "struct AttributeDefinition" <|
    ((Fields.nothing AttributeDefinition.mk).required "AttributeName" lenientText
      |>.required "AttributeType" lenientText)

/-- A reserved capacity, whose numbers may be written as texts. -/
def Throughput.read : Reader Throughput :=
  record .direct "struct ProvisionedThroughput" <|
    ((Fields.nothing Throughput.mk).required "ReadCapacityUnits" lenientInt64
      |>.required "WriteCapacityUnits" lenientInt64)

/-- The attributes that an index holds. Nothing in it has to be given, and all of it is
    read strictly. -/
def Projection.read : Reader Projection :=
  record .direct "struct Projection" <|
    ((Fields.nothing Projection.mk).optional "NonKeyAttributes" (list text) []
      |>.optional "ProjectionType" (optional text) none)

/-- An index, of which only the name has to be given. -/
def SecondaryIndex.read : Reader SecondaryIndex :=
  record .direct "struct GlobalSecondaryIndex" <|
    ((Fields.nothing SecondaryIndex.mk).required "IndexName" lenientText
      |>.optional "KeySchema" (list KeyElement.read) []
      |>.optional "Projection" (optional Projection.read) none
      |>.optional "ProvisionedThroughput" (optional Throughput.read) none)

/-- A table. Its name and the way its use is charged are read strictly: in a template
    they are taken as texts before. -/
def TableSpec.read : Reader TableSpec :=
  record .direct "struct DynamoDbSpec" <|
    ((Fields.nothing TableSpec.mk).required "TableName" text
      |>.optional "KeySchema" (list KeyElement.read) []
      |>.optional "AttributeDefinitions" (list AttributeDefinition.read) []
      |>.optional "GlobalSecondaryIndexes" (list SecondaryIndex.read) []
      |>.required "BillingMode" text
      |>.optional "ProvisionedThroughput" (optional Throughput.read) none)

/-- A rule, in which the number of days may be written as a text. -/
def LifecycleRule.read : Reader LifecycleRule :=
  record .direct "struct LifecycleRule" <|
    ((Fields.nothing LifecycleRule.mk).optional "Id" (optional text) none
      |>.required "Status" lenientText
      |>.optional "Prefix" (optional text) none
      |>.optional "ExpirationInDays" (optional lenientInt64) none)

/-- The rules of a bucket. -/
def Lifecycle.read : Reader Lifecycle :=
  record .direct "struct LifecycleConfiguration"
    ((Fields.nothing Lifecycle.mk).optional "Rules" (list LifecycleRule.read) [])

/-- A bucket, whose name is read strictly. -/
def BucketSpec.read : Reader BucketSpec :=
  record .direct "struct S3Spec" <|
    ((Fields.nothing BucketSpec.mk).required "BucketName" text
      |>.optional "LifecycleConfiguration" (optional Lifecycle.read) none)

/-- What functions stand on. Each list is empty if it is left out. -/
def ResourceSpecs.read : Reader ResourceSpecs :=
  record .direct "struct ResourcesSpec" <|
    ((Fields.nothing ResourceSpecs.mk).optional "dynamodb" (list TableSpec.read) []
      |>.optional "s3" (list BucketSpec.read) []
      |>.optional "layers" (list (LayerSpec.read .direct)) [])

/-- A whole compilation, every part of which may be left out. -/
def Compilation.read : Reader Compilation :=
  record .direct "struct ParseResult" <|
    ((Fields.nothing Compilation.mk).optional "functions" (list FunctionSpec.read) []
      |>.optional "resources" ResourceSpecs.read .empty
      |>.optional "warnings" (list text) [])

end SamTemplate
