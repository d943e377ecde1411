import SamTemplate.Proofs.EffectiveSettings
import SamTemplate.Proofs.ExtractionAlike
import SamTemplate.Proofs.MalformedProperties
import SamTemplate.Proofs.RecordReadings

/-!
# Integer settings

The settings that are integers (`Setting`), where each of them is in a resource
(`Setting.path`), and where it goes in the output (`Setting.InFunction`, `Setting.InTable`,
`Setting.InBucket`). Functions take theirs from the tree, tables and buckets from the JSON of a
property. Resources that agree but for a setting, which stands for the same integer in both, are
read alike.

* `Setting.resourceAlike`: so the extraction gives the same for both;
* `Setting.inFunction_of_emits`, `Setting.inTable_tableSpec`, `Setting.inBucket_bucketSpec`: what
  is emitted for such a resource has the integer.
-/

namespace SamTemplate

open Collecting Node

/-- A setting that is an integer. -/
inductive Setting where
  /-- How many seconds a function may run. -/
  | timeout
  /-- How many mebibytes a function may use. -/
  | memorySize
  /-- How many instances of a function may run. -/
  | reservedConcurrency
  /-- How many instances of a function are kept ready. -/
  | provisionedConcurrency
  /-- The capacity of a table for reading. -/
  | readCapacity
  /-- The capacity of a table for writing. -/
  | writeCapacity
  /-- After how many days the objects expire that a rule of a bucket is about. -/
  | expiration (rule : Nat)

namespace Setting

/-- The property that a setting is in. -/
def property : Setting → String
  | timeout => "Timeout"
  | memorySize => "MemorySize"
  | reservedConcurrency => "ReservedConcurrentExecutions"
  | provisionedConcurrency => "ProvisionedConcurrencyConfig"
  | readCapacity | writeCapacity => "ProvisionedThroughput"
  | expiration _ => "LifecycleConfiguration"

/-- Where in its property a setting is. -/
def within : Setting → List Step
  | timeout | memorySize | reservedConcurrency => []
  | provisionedConcurrency => [.key "ProvisionedConcurrentExecutions"]
  | readCapacity => [.key "ReadCapacityUnits"]
  | writeCapacity => [.key "WriteCapacityUnits"]
  | expiration rule => [.key "Rules", .item rule, .key "ExpirationInDays"]

/-- Where in a resource a setting is. -/
def path (setting : Setting) : List Step :=
  .key "Properties" :: .key setting.property :: setting.within

/-- The setting of a function is this integer. -/
def InFunction (i : Int64) : Setting → FunctionSpec → Prop
  | timeout, function => function.timeout = i
  | memorySize, function => function.memorySize = i
  | reservedConcurrency, function => function.scaling.maxCapacity = some i
  | provisionedConcurrency, function => function.scaling.minCapacity = some i
  | _, _ => True

/-- The setting of a table is this integer, and the other number of its capacity is the one that
    is given in the property; there is no capacity if none is. -/
def InTable (i : Int64) (given : Node) : Setting → TableSpec → Prop
  | readCapacity, table => table.provisionedThroughput
      = ((given.get? "WriteCapacityUnits").bind int?).map fun write => ⟨i, write⟩
  | writeCapacity, table => table.provisionedThroughput
      = ((given.get? "ReadCapacityUnits").bind int?).map fun read => ⟨read, i⟩
  | _, _ => True

/-- The setting of a bucket is this integer, if the bucket has a configuration, which it has if
    the rules in the property can be read. -/
def InBucket (i : Int64) (given : Node) : Setting → BucketSpec → Prop
  | expiration index, bucket =>
    (given.HasRules → bucket.lifecycleConfiguration.isSome = true) ∧
      ∀ lifecycle, bucket.lifecycleConfiguration = some lifecycle →
        ∃ rule, lifecycle.rules[index]? = some rule ∧ rule.expirationInDays = some i
  | _, _ => True

/-- The properties that settings are in. -/
def properties : List String :=
  ["Timeout", "MemorySize", "ReservedConcurrentExecutions", "ProvisionedConcurrencyConfig",
    "ProvisionedThroughput", "LifecycleConfiguration"]

theorem property_mem (setting : Setting) : setting.property ∈ properties := by
  cases setting <;> simp [property, properties]

/-- A setting is at most five steps into a resource. -/
theorem length_path_le (setting : Setting) : setting.path.length ≤ 5 := by
  cases setting <;> simp [path, within]

/-- No function is called on the way to a setting, since no key there is the name of one. -/
theorem nameless_path (setting : Setting) : Nameless setting.path := by
  intro name hmem
  have hne (function : Intrinsic) : function.name ≠ name := by
    rintro rfl
    cases setting <;> cases function <;> simp [path, property, within, Intrinsic.name] at hmem
  exact List.find?_eq_none.2 fun function _ => by simpa using hne function

end Setting

/-! ### Nodes that agree but for an integer -/

section

variable {i : Int64} {way : List Step} {a b : Node}

/-- Nodes that agree but for an integer stand for the same integer, or for none. -/
theorem Node.ApartAt.int?_eq (h : ApartAt (BothInt i) way a b) : a.int? = b.int? := by
  rcases way with _ | ⟨_ | _, way⟩
  · exact h.1.trans h.2.symm
  · obtain ⟨_, _, rfl, rfl, -⟩ := h
    rfl
  · obtain ⟨_, _, rfl, rfl, -⟩ := h
    rfl

theorem Node.isNull_eq_false_of_int? (h : a.int? = some i) : a.isNull = false := by
  cases a with
  | null => exact nomatch h
  | _ => rfl

theorem Node.given?_of_get? {entries : Entries Node} {key : String}
    (hget : entries.get? key = some a) (hnull : a.isNull = false) :
    given? entries key = some a := by
  rw [given?, hget, Option.filter_some, hnull]
  rfl

theorem Node.ApartAt.isNull_eq_false (h : ApartAt (BothInt i) way a b) :
    a.isNull = false ∧ b.isNull = false := by
  rcases way with _ | ⟨_ | _, way⟩
  · exact ⟨isNull_eq_false_of_int? h.1, isNull_eq_false_of_int? h.2⟩
  · obtain ⟨_, _, rfl, rfl, -⟩ := h
    exact ⟨rfl, rfl⟩
  · obtain ⟨_, _, rfl, rfl, -⟩ := h
    exact ⟨rfl, rfl⟩

end

/-- What mappings that agree but for an integer have under its key is the integer. -/
theorem Entries.AgreesBut.bind_int?_eq {key : String} {entries entries' : Entries Node}
    (h : entries.AgreesBut key (ApartAt (BothInt i) []) entries') (hmem : key ∈ entries.keys) :
    (entries.get? key).bind int? = some i := by
  obtain ⟨a, b, hab, hget, -⟩ := h.exists_get? hmem
  rw [hget]
  exact hab.1

/-! ### Properties that agree but for a setting -/

/-- Properties that agree but for a setting, which both have, and which is an integer in both. -/
def Setting.Respelled (setting : Setting) (i : Int64) (properties properties' : Entries Node) :
    Prop :=
  setting.property ∈ properties.keys ∧
    properties.AgreesBut setting.property (ApartAt (BothInt i) setting.within) properties'

namespace Setting.Respelled

variable {setting : Setting} {i : Int64} {properties properties' : Entries Node} {key : String}

theorem get?_eq (h : setting.Respelled i properties properties')
    (hkey : key ∉ Setting.properties) : properties.get? key = properties'.get? key :=
  h.2.get?_eq fun heq => hkey (heq ▸ setting.property_mem)

theorem given?_eq (h : setting.Respelled i properties properties')
    (hkey : key ∉ Setting.properties) : given? properties key = given? properties' key := by
  rw [given?, given?, h.get?_eq hkey]

theorem textUnder_eq (h : setting.Respelled i properties properties')
    (hkey : key ∉ Setting.properties) (fallback : String) :
    textUnder properties key fallback = textUnder properties' key fallback := by
  rw [textUnder, textUnder, h.given?_eq hkey]

theorem trimmedUnder_eq (h : setting.Respelled i properties properties')
    (hkey : key ∉ Setting.properties) :
    trimmedUnder properties key = trimmedUnder properties' key := by
  rw [trimmedUnder, trimmedUnder, h.get?_eq hkey]

/-- What is read under a key is the same if it is the same for what may be there. -/
theorem bind_eq {α : Type} {f : Node → Option α} (h : setting.Respelled i properties properties')
    (hf : key = setting.property →
      ∀ a b, ApartAt (BothInt i) setting.within a b → f a = f b) :
    (properties.get? key).bind f = (properties'.get? key).bind f := by
  by_cases hkey : key = setting.property
  · subst hkey
    exact rel_bind_eq h.2.rel_get? (hf rfl)
  · rw [h.2.get?_eq hkey]

theorem given?_bind_int?_eq (h : setting.Respelled i properties properties') (key : String) :
    (given? properties key).bind int? = (given? properties' key).bind int? := by
  rw [given?_bind_int?, given?_bind_int?, h.bind_eq fun _ _ _ hab => hab.int?_eq]

theorem scalingOf_eq (h : setting.Respelled i properties properties') :
    scalingOf properties = scalingOf properties' := by
  have hmax : (properties.get? "ReservedConcurrentExecutions").bind int?
      = (properties'.get? "ReservedConcurrentExecutions").bind int? :=
    h.bind_eq fun _ _ _ hab => hab.int?_eq
  have hmin : (properties.get? "ProvisionedConcurrencyConfig").bind
        (fun node => (node.get? "ProvisionedConcurrentExecutions").bind int?)
      = (properties'.get? "ProvisionedConcurrencyConfig").bind
        fun node => (node.get? "ProvisionedConcurrentExecutions").bind int? := by
    refine h.bind_eq fun hproperty a b hab => ?_
    cases setting <;> simp only [property, String.reduceEq] at hproperty
    obtain ⟨entries, entries', rfl, rfl, -, hagrees⟩ := hab
    exact rel_bind_eq hagrees.rel_get? fun _ _ => ApartAt.int?_eq
  simp only [scalingOf, hmax, Option.bind_assoc, hmin]

/-- The settings of a function are the same. -/
theorem functionSpec_eq (h : setting.Respelled i properties properties') (logicalId : String)
    (defaults : FunctionDefaults) (packaging : Packaging) (events : List Event)
    (management : Option RuntimeManagement) :
    functionSpec logicalId properties defaults packaging events management
      = functionSpec logicalId properties' defaults packaging events management := by
  simp (disch := decide) only [functionSpec, environmentOf, h.textUnder_eq, h.get?_eq, h.given?_eq,
    h.given?_bind_int?_eq, h.scalingOf_eq]

/-- A property is read alike if its reader reads alike what agrees but for the setting. -/
theorem readProperty_eq {α : Type} (h : setting.Respelled i properties properties')
    (read : Reader α) (key : String)
    (hread : key = setting.property →
      ∀ a b, ApartAt (BothInt i) setting.within a b → read a.toJson = read b.toJson)
    (owner logicalId : String) :
    readProperty read owner logicalId properties key
      = readProperty read owner logicalId properties' key := by
  by_cases hkey : key = setting.property
  · subst hkey
    rcases rel_cases h.2.rel_get? with ⟨hnone, hnone'⟩ | ⟨a, b, hsome, hsome', hab⟩
    · unfold readProperty
      rw [given?, given?, hnone, hnone']
    · unfold readProperty
      rw [given?_of_get? hsome hab.isNull_eq_false.1, given?_of_get? hsome' hab.isNull_eq_false.2]
      simp only [hread rfl a b hab]
  · unfold readProperty
    rw [given?, given?, h.2.get?_eq hkey]

/-- Properties that agree but for a setting are read alike. -/
theorem propertiesAlike (h : setting.Respelled i properties properties')
    (defaults : FunctionDefaults) : PropertiesAlike defaults defaults properties properties' where
  layer logicalId := by
    simp (disch := decide) only [layerSpec, h.textUnder_eq, h.given?_eq]
  table logicalId := by
    -- Of what is read from JSON, only the capacity can have the setting in it.
    have hcapacity := h.readProperty_eq Throughput.read "ProvisionedThroughput"
      (fun hproperty a b hab => by
        cases setting <;> simp only [property, String.reduceEq] at hproperty
        all_goals exact Throughput.read_eq_of_apart hab) "DynamoDB table" logicalId
    have hlist {α : Type} (read : Reader α) (key : String) (hkey : key ∉ Setting.properties) :
        readProperty read "DynamoDB table" logicalId properties key
          = readProperty read "DynamoDB table" logicalId properties' key :=
      h.readProperty_eq read key
        (fun hproperty => absurd (hproperty ▸ setting.property_mem) hkey) _ _
    simp (disch := decide) only [tableSpec, hlist, hcapacity, h.textUnder_eq]
  bucket logicalId := by
    have hrules := h.readProperty_eq Lifecycle.read "LifecycleConfiguration"
      (fun hproperty a b hab => by
        cases setting <;> simp only [property, String.reduceEq] at hproperty
        exact Lifecycle.read_eq_of_apart hab) "S3 bucket" logicalId
    simp (disch := decide) only [bucketSpec, hrules, h.textUnder_eq]
  serverless logicalId layers := by
    simp (disch := decide) only [serverlessFunction, h.get?_eq, h.textUnder_eq, h.trimmedUnder_eq,
      h.functionSpec_eq, codePackage, h.given?_eq]
  lambdaImage := by
    simp (disch := decide) only [lambdaImage?, h.trimmedUnder_eq, h.get?_eq]
  lambda logicalId uri := by
    simp (disch := decide) only [lambdaFunction, h.textUnder_eq, h.functionSpec_eq]

/-- A function that is read from such properties has the integer. -/
theorem inFunction_functionSpec (h : setting.Respelled i properties properties')
    (logicalId : String) (defaults : FunctionDefaults) (packaging : Packaging)
    (events : List Event) (management : Option RuntimeManagement) :
    setting.InFunction i
      (functionSpec logicalId properties defaults packaging events management) := by
  obtain ⟨a, b, hab, hget, -⟩ := h.2.exists_get? h.1
  have hgiven : given? properties setting.property = some a :=
    given?_of_get? hget hab.isNull_eq_false.1
  cases setting with
  | timeout | memorySize =>
    simp only [InFunction, functionSpec]
    simp only [property] at hgiven
    rw [hgiven, Option.bind_some, hab.1, Option.getD_some]
  | reservedConcurrency =>
    simp only [property] at hget
    simp only [InFunction, functionSpec, scalingOf, hget, Option.bind_some, hab.1]
  | provisionedConcurrency =>
    obtain ⟨entries, entries', rfl, rfl, hmem, hagrees⟩ := hab
    have hnode : ((Node.map entries).get? "ProvisionedConcurrentExecutions").bind int? = some i :=
      hagrees.bind_int?_eq hmem
    simp only [property] at hget
    simp only [InFunction, functionSpec, scalingOf, hget, Option.bind_some, hnode]
  | readCapacity | writeCapacity | expiration => trivial

end Setting.Respelled

/-! ### Resources that agree but for a setting -/

/-- A property that is read as a record has the value that is read from what is given. -/
theorem TypedProperty.value_ofRecord {α σ : Type} {key : String} {read : Reader α}
    {get : σ → Option α} {set : σ → Option α → σ} {properties : Entries Node} {node : Node}
    (h : given? properties key = some node) :
    (ofRecord key read get set).value properties = (read node.toJson).toOption := by
  unfold TypedProperty.value reading? ofRecord
  dsimp only
  rw [h]
  cases hread : read node.toJson <;> simp [hread, Except.map, Except.toOption]

theorem exists_of_mem_specsOf {α : Type} {type : ResourceType}
    {spec : String → Entries Node → Collecting α} {resources : Entries Node} {logicalId : String}
    {value : α} (h : (logicalId, value) ∈ specsOf type spec resources) :
    ∃ resource, (logicalId, resource) ∈ resources ∧
      value = (spec logicalId ((properties? resource).getD [])).value := by
  obtain ⟨⟨_, resource⟩, hmem, hentry⟩ := List.mem_filterMap.1 h
  split at hentry
  · cases hentry
    exact ⟨resource, hmem, rfl⟩
  · exact nomatch hentry

namespace Setting

variable {setting : Setting} {i : Int64} {a b : Node}

/-- Resources that agree but for a setting have properties that do. -/
theorem exists_respelled (h : ApartAt (BothInt i) setting.path a b) :
    ∃ properties properties', properties? a = some properties ∧
      properties? b = some properties' ∧ setting.Respelled i properties properties' := by
  obtain ⟨entries, entries', rfl, rfl, hmem, hagrees⟩ := h
  obtain ⟨_, _, hproperties, hsome, hsome'⟩ := hagrees.exists_get? hmem
  obtain ⟨properties, properties', rfl, rfl, hrespelled⟩ := hproperties
  refine ⟨properties, properties', ?_, ?_, hrespelled⟩
  · exact congrArg (·.bind entries?) (given?_of_get? hsome rfl)
  · exact congrArg (·.bind entries?) (given?_of_get? hsome' rfl)

/-- Resources that agree but for a setting are read alike. -/
theorem resourceAlike (h : ApartAt (BothInt i) setting.path a b) (defaults : FunctionDefaults) :
    ResourceAlike defaults defaults a b := by
  obtain ⟨properties, properties', hp, hp', hrespelled⟩ := exists_respelled h
  obtain ⟨entries, entries', rfl, rfl, -, hagrees⟩ := h
  constructor
  · have htype : (Node.map entries).field? "Type" = (Node.map entries').field? "Type" := by
      change given? entries "Type" = given? entries' "Type"
      rw [given?, given?, hagrees.get?_eq (by decide)]
    rw [ResourceType.of?, ResourceType.of?, htype]
  · rw [hp, hp']
    exact .some (hrespelled.propertiesAlike defaults)

/-- A function that is emitted for a resource has the setting of the resource. -/
theorem inFunction_of_emits {defaults : FunctionDefaults} {layers : Bindings LayerSpec}
    {logicalId : String} {function : FunctionSpec} (h : ApartAt (BothInt i) setting.path a b)
    (he : Emits defaults layers logicalId a function) : setting.InFunction i function := by
  obtain ⟨properties, properties', hp, -, hrespelled⟩ := exists_respelled h
  cases he with
  | image hd =>
    cases hp.symm.trans (describes_iff.1 hd).2
    exact hrespelled.inFunction_functionSpec ..
  | zip hd =>
    cases hp.symm.trans (describes_iff.1 hd).2
    exact hrespelled.inFunction_functionSpec ..

/-- What a resource with the setting has in its property. -/
theorem exists_property (h : ApartAt (BothInt i) setting.path a b) :
    ∃ properties given other, properties? a = some properties ∧
      properties.get? setting.property = some given ∧
      given? properties setting.property = some given ∧
      ApartAt (BothInt i) setting.within given other := by
  obtain ⟨properties, _, hp, -, hrespelled⟩ := exists_respelled h
  obtain ⟨given, other, hapart, hget, -⟩ := hrespelled.2.exists_get? hrespelled.1
  exact ⟨properties, given, other, hp, hget, given?_of_get? hget hapart.isNull_eq_false.1, hapart⟩

theorem inTable_tableSpec (h : ApartAt (BothInt i) setting.path a b) (logicalId : String) :
    ∃ given, (properties? a).bind (·.get? setting.property) = some given ∧
      setting.InTable i given (tableSpec logicalId ((properties? a).getD [])).value := by
  obtain ⟨properties, given, other, hp, hget, hgiven, hapart⟩ := exists_property h
  refine ⟨given, by rw [hp]; exact hget, ?_⟩
  have hcapacity (hproperty : setting.property = "ProvisionedThroughput") :
      (tableSpec logicalId ((properties? a).getD [])).value.provisionedThroughput
        = (Throughput.read given.toJson).toOption := by
    have hvalue := (Backing.read_tells .table logicalId (.map properties)).value_eq
    rw [hp]
    exact (congrArg TableSpec.provisionedThroughput hvalue).trans
      (TypedProperty.value_ofRecord (hproperty ▸ hgiven))
  cases setting with
  | readCapacity =>
    obtain ⟨entries, _, rfl, -, hmem, hagrees⟩ := hapart
    have hread := hagrees.bind_int?_eq hmem
    exact (hcapacity rfl).trans (by rw [Throughput.toOption_read, hread]; rfl)
  | writeCapacity =>
    obtain ⟨entries, _, rfl, -, hmem, hagrees⟩ := hapart
    have hwrite := hagrees.bind_int?_eq hmem
    refine (hcapacity rfl).trans ?_
    rw [Throughput.toOption_read, hwrite]
    exact Option.map_eq_bind.symm
  | _ => trivial

theorem inBucket_bucketSpec (h : ApartAt (BothInt i) setting.path a b) (logicalId : String) :
    ∃ given, (properties? a).bind (·.get? setting.property) = some given ∧
      setting.InBucket i given (bucketSpec logicalId ((properties? a).getD [])).value := by
  obtain ⟨properties, given, other, hp, hget, hgiven, hapart⟩ := exists_property h
  refine ⟨given, by rw [hp]; exact hget, ?_⟩
  cases setting with
  | expiration rule =>
    have hvalue := (Backing.read_tells .bucket logicalId (.map properties)).value_eq
    have hlifecycle : (bucketSpec logicalId ((properties? a).getD [])).value.lifecycleConfiguration
        = (Lifecycle.read given.toJson).toOption := by
      rw [hp]
      exact (congrArg BucketSpec.lifecycleConfiguration hvalue).trans
        (TypedProperty.value_ofRecord hgiven)
    refine ⟨fun hrules => ?_, fun lifecycle hl => ?_⟩
    · obtain ⟨lifecycle, hread⟩ := hrules.exists_read
      rw [hlifecycle, hread]
      rfl
    · rw [hlifecycle] at hl
      exact Lifecycle.reads_of_apart hapart (except_toOption_eq_some_iff.1 hl)
  | _ => trivial

end Setting

end SamTemplate
