import SamTemplate.Proofs.MemberOrder
import SamTemplate.Proofs.OutputReadBack

/-!
# Reading undoes writing

Every type of output is read as what was written: from its JSON, from JSON that differs in the
order of members, as after a detour through a map, and from its text (`Reader.Undoes`). To
what is known of the JSON as it is written, each type adds that its reader does not depend on
the order of members and that its text gives its JSON exactly.
-/

namespace SamTemplate

open Json Reader Fields

/-! ### Readers do not depend on the order of members -/

/-- The stage only shows in the words for a misfit. -/
theorem LayerSpec.steady_read (stage : Stage) : (LayerSpec.read stage).Steady :=
  steady_record ((steady_nothing _).required steady_text |>.required steady_text
    |>.optional steady_text.list) _ _

/-- The layers in a package of code are read at the stage of the package. -/
theorem CodePackage.steady_read (stage : Stage) : (CodePackage.read stage).Steady :=
  steady_record ((steady_nothing _).required steady_text |>.required steady_text
    |>.required steady_text |>.optional steady_bool
    |>.optional (LayerSpec.steady_read stage).list) _ _

theorem ImagePackage.steady_read (stage : Stage) : (ImagePackage.read stage).Steady :=
  steady_record ((steady_nothing _).required steady_text) _ _

/-- A package has one of two shapes, and the reader of either is steady. -/
theorem Packaging.steady_read : Packaging.read.Steady := by
  -- Each shape has a reader of its own.
  refine steady_shaped fun shape hmem => ?_
  simp only [List.mem_cons, List.not_mem_nil, or_false] at hmem
  rcases hmem with rfl | rfl
  · exact (CodePackage.steady_read .setAside).map Packaging.zip
  · exact (ImagePackage.steady_read .setAside).map Packaging.image

/-- Either bound may be left out, or be null. -/
theorem Scaling.steady_read : Scaling.read.Steady :=
  steady_record ((steady_nothing _).optional steady_int64.optional
    |>.optional steady_int64.optional) _ _

/-- An event has one of two shapes, too. -/
theorem Event.steady_read : Event.read.Steady := by
  refine steady_shaped fun shape hmem => ?_
  simp only [List.mem_cons, List.not_mem_nil, or_false] at hmem
  rcases hmem with rfl | rfl
  · exact steady_record ((steady_nothing _).required steady_text |>.required steady_text) _ _
  · exact steady_record ((steady_nothing _).required steady_text
      |>.optional steady_text.optional) _ _

theorem RuntimeManagement.steady_read : RuntimeManagement.read.Steady :=
  steady_record ((steady_nothing _).required steady_text) _ _

/-- The package, the scaling, the events and the runtime management of a function are records in
    which the order of members does not matter either. -/
theorem FunctionSpec.steady_read : FunctionSpec.read.Steady :=
  steady_record ((steady_nothing _).required steady_text |>.required steady_text
    |>.required Packaging.steady_read |>.required steady_int64 |>.required steady_int64
    |>.optional steady_text.bindings |>.optional steady_text.list
    |>.optional Scaling.steady_read |>.optional Event.steady_read.list
    |>.optional RuntimeManagement.steady_read.optional) _ _

/-- The lenient readers are of single values, in which nothing has an order. -/
theorem KeyElement.steady_read : KeyElement.read.Steady :=
  steady_record ((steady_nothing _).required steady_lenientText
    |>.required steady_lenientText) _ _

theorem AttributeDefinition.steady_read : AttributeDefinition.read.Steady :=
  steady_record ((steady_nothing _).required steady_lenientText
    |>.required steady_lenientText) _ _

theorem Throughput.steady_read : Throughput.read.Steady :=
  steady_record ((steady_nothing _).required steady_lenientInt64
    |>.required steady_lenientInt64) _ _

theorem Projection.steady_read : Projection.read.Steady :=
  steady_record ((steady_nothing _).optional steady_text.list
    |>.optional steady_text.optional) _ _

/-- An index has records in it, those of its key in a list. -/
theorem SecondaryIndex.steady_read : SecondaryIndex.read.Steady :=
  steady_record ((steady_nothing _).required steady_lenientText
    |>.optional KeyElement.steady_read.list |>.optional Projection.steady_read.optional
    |>.optional Throughput.steady_read.optional) _ _

/-- A table has lists of keys, attributes and indexes, which keep their order. -/
theorem TableSpec.steady_read : TableSpec.read.Steady :=
  steady_record ((steady_nothing _).required steady_text
    |>.optional KeyElement.steady_read.list |>.optional AttributeDefinition.steady_read.list
    |>.optional SecondaryIndex.steady_read.list |>.required steady_text
    |>.optional Throughput.steady_read.optional) _ _

/-- Only the status of a rule has to be there. -/
theorem LifecycleRule.steady_read : LifecycleRule.read.Steady :=
  steady_record ((steady_nothing _).optional steady_text.optional
    |>.required steady_lenientText |>.optional steady_text.optional
    |>.optional steady_lenientInt64.optional) _ _

theorem Lifecycle.steady_read : Lifecycle.read.Steady :=
  steady_record ((steady_nothing _).optional LifecycleRule.steady_read.list) _ _

theorem BucketSpec.steady_read : BucketSpec.read.Steady :=
  steady_record ((steady_nothing _).required steady_text
    |>.optional Lifecycle.steady_read.optional) _ _

/-- The lists of resources keep their order, too: it is part of the output. -/
theorem ResourceSpecs.steady_read : ResourceSpecs.read.Steady :=
  steady_record ((steady_nothing _).optional TableSpec.steady_read.list
    |>.optional BucketSpec.steady_read.list
    |>.optional (LayerSpec.steady_read .direct).list) _ _

/-- Any part of a compilation may be left out, and the others may come in any order. -/
theorem Compilation.steady_read : Compilation.read.Steady :=
  steady_record ((steady_nothing _).optional FunctionSpec.steady_read.list
    |>.optional ResourceSpecs.steady_read |>.optional steady_text.list) _ _

/-! ### The text of the output gives its JSON exactly -/

namespace Json

attribute [simp] Exact.null Exact.bool Exact.str

/-- A list is exact if its elements are. -/
@[simp]
theorem exact_arr {elements : List Json} :
    (arr elements).Exact ↔ ∀ element ∈ elements, element.Exact :=
  ⟨fun | .arr h => h, .arr⟩

/-- An object is exact if its members are, and have different names. -/
@[simp]
theorem exact_obj {members : List (String × Json)} :
    (obj members).Exact ↔ Entries.Distinct members ∧ ∀ member ∈ members, member.2.Exact :=
  ⟨fun | .obj hd h => ⟨hd, h⟩, fun h => .obj h.1 h.2⟩

/-- A number of 64 bits is within what a text gives exactly. -/
@[simp]
theorem exact_ofInt64 (i : Int64) : (ofInt64 i).Exact :=
  .int i.le_toInt (Int.lt_trans i.toInt_lt (by decide))

@[simp]
theorem exact_ofTexts (texts : List String) : (ofTexts texts).Exact := by simp [ofTexts]

/-- A map has no key twice. -/
@[simp]
theorem exact_ofBindings (bindings : Bindings String) : (ofBindings .str bindings).Exact := by
  refine .obj ?_ (List.forall_mem_map.2 fun pair _ => .str pair.2)
  -- The members have the keys of the map, which are sorted and so distinct.
  have hkeys : Entries.keys (bindings.entries.map fun (key, value) => (key, Json.str value))
      = bindings.entries.keys := List.map_map
  rw [Entries.Distinct, hkeys]
  exact bindings.sorted.distinct

end Json

@[simp]
theorem LayerSpec.exact_toJson (layer : LayerSpec) : layer.toJson.Exact := by
  simp [toJson, Entries.Distinct, Entries.keys]

theorem CodePackage.exact_toJson (code : CodePackage) : code.toJson.Exact := by
  simp [toJson, members, Entries.Distinct, Entries.keys]

theorem ImagePackage.exact_toJson (image : ImagePackage) : image.toJson.Exact := by
  simp [toJson, members, Entries.Distinct, Entries.keys]

/-- The tag of a package stands beside the members of its shape, none of which has its name. -/
@[simp]
theorem Packaging.exact_toJson (packaging : Packaging) : packaging.toJson.Exact := by
  cases packaging <;>
    simp [toJson, CodePackage.members, ImagePackage.members, Entries.Distinct, Entries.keys]

/-- A bound that is missing has no member, so that each case is an object of its own. -/
@[simp]
theorem Scaling.exact_toJson (scaling : Scaling) : scaling.toJson.Exact := by
  obtain ⟨maxCapacity, minCapacity⟩ := scaling
  cases maxCapacity <;> cases minCapacity <;>
    simp [toJson, Json.optional, Entries.Distinct, Entries.keys]

@[simp]
theorem Event.exact_toJson (event : Event) : event.toJson.Exact := by
  rcases event with ⟨path, method⟩ | ⟨expression, input⟩
  · simp [toJson, Entries.Distinct, Entries.keys]
  · cases input <;> simp [toJson, Json.optional, Entries.Distinct, Entries.keys]

@[simp]
theorem RuntimeManagement.exact_toJson (management : RuntimeManagement) :
    management.toJson.Exact := by
  simp [toJson, Entries.Distinct, Entries.keys]

/-- Only the runtime management of a function can be missing from its JSON. -/
@[simp]
theorem FunctionSpec.exact_toJson (function : FunctionSpec) : function.toJson.Exact := by
  rw [toJson]
  cases function.runtimeManagement <;> simp [Json.optional, Entries.Distinct, Entries.keys]

@[simp]
theorem KeyElement.exact_toJson (element : KeyElement) : element.toJson.Exact := by
  simp [toJson, Entries.Distinct, Entries.keys]

@[simp]
theorem AttributeDefinition.exact_toJson (definition : AttributeDefinition) :
    definition.toJson.Exact := by
  simp [toJson, Entries.Distinct, Entries.keys]

@[simp]
theorem Throughput.exact_toJson (throughput : Throughput) : throughput.toJson.Exact := by
  simp [toJson, Entries.Distinct, Entries.keys]

/-- A projection leaves out an empty list as well as a missing type. -/
@[simp]
theorem Projection.exact_toJson (projection : Projection) : projection.toJson.Exact := by
  obtain ⟨nonKeyAttributes, projectionType⟩ := projection
  cases nonKeyAttributes <;> cases projectionType <;>
    simp [toJson, Json.optional, Entries.Distinct, Entries.keys]

@[simp]
theorem SecondaryIndex.exact_toJson (index : SecondaryIndex) : index.toJson.Exact := by
  rw [toJson]
  cases index.projection <;> cases index.provisionedThroughput <;>
    simp [Json.optional, Entries.Distinct, Entries.keys]

@[simp]
theorem TableSpec.exact_toJson (table : TableSpec) : table.toJson.Exact := by
  rw [toJson]
  cases table.provisionedThroughput <;> simp [Json.optional, Entries.Distinct, Entries.keys]

/-- A rule may leave out three of its members. -/
@[simp]
theorem LifecycleRule.exact_toJson (rule : LifecycleRule) : rule.toJson.Exact := by
  obtain ⟨id, status, namePrefix, expirationInDays⟩ := rule
  cases id <;> cases namePrefix <;> cases expirationInDays <;>
    simp [toJson, Json.optional, Entries.Distinct, Entries.keys]

@[simp]
theorem Lifecycle.exact_toJson (lifecycle : Lifecycle) : lifecycle.toJson.Exact := by
  simp [toJson, Entries.Distinct, Entries.keys]

@[simp]
theorem BucketSpec.exact_toJson (bucket : BucketSpec) : bucket.toJson.Exact := by
  rw [toJson]
  cases bucket.lifecycleConfiguration <;> simp [Json.optional, Entries.Distinct, Entries.keys]

@[simp]
theorem ResourceSpecs.exact_toJson (specs : ResourceSpecs) : specs.toJson.Exact := by
  simp [toJson, Entries.Distinct, Entries.keys]

/-- All members of a compilation are written, even if their lists are empty. -/
theorem Compilation.exact_toJson (compilation : Compilation) : compilation.toJson.Exact := by
  simp [toJson, Entries.Distinct, Entries.keys]

/-! ### Reading undoes writing -/

namespace Reader

/-- What is written is read as it was: from its JSON, whatever the order of the members of
    objects, and from its text. -/
structure Undoes {α : Type} (read : Reader α) (write : α → Json) : Prop where
  json : ∀ a, read (write a) = .ok a
  reordered : ∀ a json, (write a).Reordered json → read json = .ok a
  text : ∀ a, (Json.parse? (write a).compact).map read = some (.ok a)

/-- Reading from JSON is all of it, if the order of members does not matter and the text gives
    the JSON exactly. -/
theorem undoes_of_exact {α : Type} {read : Reader α} {write : α → Json}
    (hread : ∀ a, read (write a) = .ok a) (hsteady : read.Steady)
    (hexact : ∀ a, (write a).Exact) : read.Undoes write := by
  refine ⟨hread, fun a json hr => hsteady hr (hread a), fun a => ?_⟩
  -- The text has its members in the order of names, which is only another order.
  rw [Json.parse?_compact (hexact a), Option.map_some,
    hsteady (hexact a).reordered_inOrder (hread a)]

end Reader

/-- Every type of output is read as it was written, a compilation as well as each part of it.
    What is empty or absent comes back though it has no member, the shape of a choice by its
    name, and a text that spells a number or a truth value stays a text. -/
theorem reading_undoes_writing :
    Compilation.read.Undoes Compilation.toJson ∧
    FunctionSpec.read.Undoes FunctionSpec.toJson ∧
    Packaging.read.Undoes Packaging.toJson ∧
    (∀ stage, (CodePackage.read stage).Undoes CodePackage.toJson) ∧
    (∀ stage, (ImagePackage.read stage).Undoes ImagePackage.toJson) ∧
    Scaling.read.Undoes Scaling.toJson ∧
    Event.read.Undoes Event.toJson ∧
    RuntimeManagement.read.Undoes RuntimeManagement.toJson ∧
    ResourceSpecs.read.Undoes ResourceSpecs.toJson ∧
    (∀ stage, (LayerSpec.read stage).Undoes LayerSpec.toJson) ∧
    TableSpec.read.Undoes TableSpec.toJson ∧
    KeyElement.read.Undoes KeyElement.toJson ∧
    AttributeDefinition.read.Undoes AttributeDefinition.toJson ∧
    SecondaryIndex.read.Undoes SecondaryIndex.toJson ∧
    Projection.read.Undoes Projection.toJson ∧
    Throughput.read.Undoes Throughput.toJson ∧
    BucketSpec.read.Undoes BucketSpec.toJson ∧
    Lifecycle.read.Undoes Lifecycle.toJson ∧
    LifecycleRule.read.Undoes LifecycleRule.toJson := by
  refine ⟨?_, ?_, ?_, fun stage => ?_, fun stage => ?_, ?_, ?_, ?_, ?_, fun stage => ?_, ?_, ?_,
    ?_, ?_, ?_, ?_, ?_, ?_, ?_⟩
  · exact undoes_of_exact Compilation.read_toJson Compilation.steady_read Compilation.exact_toJson
  · exact undoes_of_exact FunctionSpec.read_toJson FunctionSpec.steady_read
      FunctionSpec.exact_toJson
  · exact undoes_of_exact Packaging.read_toJson Packaging.steady_read Packaging.exact_toJson
  · exact undoes_of_exact (CodePackage.read_toJson stage) (CodePackage.steady_read stage)
      CodePackage.exact_toJson
  · exact undoes_of_exact (ImagePackage.read_toJson stage) (ImagePackage.steady_read stage)
      ImagePackage.exact_toJson
  · exact undoes_of_exact Scaling.read_toJson Scaling.steady_read Scaling.exact_toJson
  · exact undoes_of_exact Event.read_toJson Event.steady_read Event.exact_toJson
  · exact undoes_of_exact RuntimeManagement.read_toJson RuntimeManagement.steady_read
      RuntimeManagement.exact_toJson
  · exact undoes_of_exact ResourceSpecs.read_toJson ResourceSpecs.steady_read
      ResourceSpecs.exact_toJson
  · exact undoes_of_exact (LayerSpec.read_toJson stage) (LayerSpec.steady_read stage)
      LayerSpec.exact_toJson
  · exact undoes_of_exact TableSpec.read_toJson TableSpec.steady_read TableSpec.exact_toJson
  · exact undoes_of_exact KeyElement.read_toJson KeyElement.steady_read KeyElement.exact_toJson
  · exact undoes_of_exact AttributeDefinition.read_toJson AttributeDefinition.steady_read
      AttributeDefinition.exact_toJson
  · exact undoes_of_exact SecondaryIndex.read_toJson SecondaryIndex.steady_read
      SecondaryIndex.exact_toJson
  · exact undoes_of_exact Projection.read_toJson Projection.steady_read Projection.exact_toJson
  · exact undoes_of_exact Throughput.read_toJson Throughput.steady_read Throughput.exact_toJson
  · exact undoes_of_exact BucketSpec.read_toJson BucketSpec.steady_read BucketSpec.exact_toJson
  · exact undoes_of_exact Lifecycle.read_toJson Lifecycle.steady_read Lifecycle.exact_toJson
  · exact undoes_of_exact LifecycleRule.read_toJson LifecycleRule.steady_read
      LifecycleRule.exact_toJson

end SamTemplate
