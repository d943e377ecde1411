import SamTemplate.Bindings

/-!
# Compiled output

What a compilation gives: the functions of a template with all defaults
applied, and the tables, buckets and layers they stand on. Functions and layers
have names of their own; tables and buckets keep the shape in which templates
write them.
-/

namespace SamTemplate

/-- A layer that functions share. -/
structure LayerSpec where
  /-- The name of the layer. -/
  name : String
  /-- The path of its content, which ends with a slash. -/
  contentUri : String
  /-- The architectures it runs on. -/
  compatibleArchitectures : List String
  deriving DecidableEq, Repr

/-- Code that is shipped as an archive. -/
structure CodePackage where
  /-- The language runtime. -/
  runtime : String
  /-- The entry point. -/
  handler : String
  /-- The path of the code, which ends with a slash. -/
  codeUri : String
  /-- Whether the code brings a list of its dependencies; found out later. -/
  hasRequirements : Bool
  /-- The layers of the function, in order. -/
  layers : List LayerSpec
  deriving DecidableEq, Repr

/-- Code that is shipped as a container image. -/
structure ImagePackage where
  /-- The reference of the image. -/
  imageSource : String
  deriving DecidableEq, Repr

/-- How the code of a function is shipped. -/
inductive Packaging where
  /-- As an archive. -/
  | zip (code : CodePackage)
  /-- As a container image. -/
  | image (image : ImagePackage)
  deriving DecidableEq, Repr

/-- How many instances of a function may run. -/
structure Scaling where
  /-- At most so many. -/
  maxCapacity : Option Int64
  /-- At least so many. -/
  minCapacity : Option Int64
  deriving DecidableEq, Repr

/-- What starts a function. -/
inductive Event where
  /-- A request; the method is in lower case. -/
  | api (path method : String)
  /-- A point in time, with a text handed to the function. -/
  | schedule (expression : String) (input : Option String)
  deriving DecidableEq, Repr

/-- When the runtime of a function is updated. -/
structure RuntimeManagement where
  /-- What triggers an update. -/
  updateRuntimeOn : String
  deriving DecidableEq, Repr

/-- A function with every default applied. -/
structure FunctionSpec where
  /-- Its key among the resources of the template. -/
  logicalId : String
  /-- Its name. -/
  name : String
  /-- How its code is shipped. -/
  packaging : Packaging
  /-- How many seconds it may run. -/
  timeout : Int64
  /-- How many mebibytes it may use. -/
  memorySize : Int64
  /-- Its environment variables. -/
  environment : Bindings String
  /-- The architectures it runs on. -/
  architectures : List String
  /-- How many instances may run. -/
  scaling : Scaling
  /-- What starts it, in the order of the events' names. -/
  events : List Event
  /-- When its runtime is updated. -/
  runtimeManagement : Option RuntimeManagement
  deriving DecidableEq

/-- A part of the key of a table. -/
structure KeyElement where
  /-- The attribute. -/
  attributeName : String
  /-- What part of the key it is. -/
  keyType : String
  deriving DecidableEq, Repr

/-- An attribute of a table. -/
structure AttributeDefinition where
  /-- The attribute. -/
  attributeName : String
  /-- The type of its values. -/
  attributeType : String
  deriving DecidableEq, Repr

/-- The capacity reserved for a table. -/
structure Throughput where
  /-- Units for reading. -/
  readCapacityUnits : Int64
  /-- Units for writing. -/
  writeCapacityUnits : Int64
  deriving DecidableEq, Repr

/-- The attributes that an index holds. -/
structure Projection where
  /-- Those beside the keys. -/
  nonKeyAttributes : List String
  /-- Which sort of selection it is. -/
  projectionType : Option String
  deriving DecidableEq, Repr

/-- An index of a table with a key of its own. -/
structure SecondaryIndex where
  /-- The name of the index. -/
  indexName : String
  /-- Its key. -/
  keySchema : List KeyElement
  /-- The attributes it holds. -/
  projection : Option Projection
  /-- The capacity reserved for it. -/
  provisionedThroughput : Option Throughput
  deriving DecidableEq, Repr

/-- A table. -/
structure TableSpec where
  /-- The name of the table. -/
  tableName : String
  /-- Its key. -/
  keySchema : List KeyElement
  /-- Its attributes. -/
  attributeDefinitions : List AttributeDefinition
  /-- Its indexes. -/
  globalSecondaryIndexes : List SecondaryIndex
  /-- How its use is charged. -/
  billingMode : String
  /-- The capacity reserved for it. -/
  provisionedThroughput : Option Throughput
  deriving DecidableEq, Repr

/-- A rule about what happens to the objects of a bucket. -/
structure LifecycleRule where
  /-- The name of the rule. -/
  id : Option String
  /-- Whether it is in force. -/
  status : String
  /-- How the names of the objects start that it is about. -/
  namePrefix : Option String
  /-- After how many days they expire. -/
  expirationInDays : Option Int64
  deriving DecidableEq, Repr

/-- What happens to the objects of a bucket. -/
structure Lifecycle where
  /-- The rules. -/
  rules : List LifecycleRule
  deriving DecidableEq, Repr

/-- A bucket. -/
structure BucketSpec where
  /-- The name of the bucket. -/
  bucketName : String
  /-- What happens to its objects. -/
  lifecycleConfiguration : Option Lifecycle
  deriving DecidableEq, Repr

/-- What the functions of a template stand on, each list in the order of the
    logical ids. -/
structure ResourceSpecs where
  /-- The tables. -/
  tables : List TableSpec
  /-- The buckets. -/
  buckets : List BucketSpec
  /-- The layers. -/
  layers : List LayerSpec
  deriving DecidableEq, Repr

/-- The output of a compilation. -/
structure Compilation where
  /-- The functions, in the order of their names. -/
  functions : List FunctionSpec
  /-- What they stand on. -/
  resources : ResourceSpecs
  /-- The notices about the template. -/
  warnings : List String
  deriving DecidableEq

/-- Whether a function is shipped as a container image. -/
def FunctionSpec.isImage (function : FunctionSpec) : Bool :=
  match function.packaging with
  | .image _ => true
  | .zip _ => false

namespace ResourceSpecs

/-- No resources. -/
def empty : ResourceSpecs := ⟨[], [], []⟩

/-- Whether there are no resources. -/
def isEmpty (specs : ResourceSpecs) : Bool :=
  specs.tables.isEmpty && specs.buckets.isEmpty && specs.layers.isEmpty

end ResourceSpecs

/-- The output for a template without resources. -/
def Compilation.empty : Compilation := ⟨[], .empty, []⟩

end SamTemplate
