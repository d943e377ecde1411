import SamTemplate.Output.Schemas
import SamTemplate.Proofs.OutputReadBack
import SamTemplate.Proofs.PublishedSchema

/-!
# The schema of the output

What is written of a value is admitted by the schema of its type, with or without what may
be left out, and so the schema that is published accepts every compilation. A value of
either shape is admitted by the schema of its shape and by no other, since the two name
different shapes.

* `Schema.Fits.admits_record`: a record admits members that fit its fields;
* `Compilation.schema_wellFormed`: what the published schema refers to is part of it;
* `Compilation.schema_accepts`: it accepts every compilation.
-/

namespace SamTemplate

namespace Schema

open Json Verdict

variable {named : String → Json → Verdict} {schema : Schema} {value : Json}

/-! ### What schemas admit -/

theorem admits_text_str (text : String) : Schema.text.admits named (.str text) = some true := rfl

/-- A number of 64 bits has the format that schemas of whole numbers ask for. -/
theorem admits_whole_ofInt64 (i : Int64) : whole.admits named (.ofInt64 i) = some true := by
  have hformat : hasFormat "int64" (.int i.toInt) = true := by
    rw [hasFormat, Reader.int64OfInt?_toInt]
    rfl
  rw [admits, ofInt64, hformat]
  rfl

/-- A remark about a schema changes nothing. -/
theorem admits_described {remark : String} :
    (described remark schema).admits named value = schema.admits named value := by
  rw [admits]

/-- A list is admitted if its elements are. -/
theorem admits_listOf {elements : List Json} :
    (listOf schema).admits named (.arr elements) = some true
      ↔ ∀ element ∈ elements, schema.admits named element = some true := by
  rw [admits, all_eq_true_iff, List.forall_mem_map]

/-- A map is admitted if its values are, whatever its keys. -/
theorem admits_mapOf {members : Entries Json} :
    (mapOf schema).admits named (.obj members) = some true
      ↔ ∀ member ∈ members, schema.admits named member.2 = some true := by
  rw [admits, all_eq_true_iff, List.forall_mem_map]

/-- A schema that admits null besides still admits what it did. -/
theorem admits_nullable (h : schema.admits named value = some true) :
    (nullable schema).admits named value = some true := by
  by_cases hvalue : value = .null
  · -- Null is admitted beside all else.
    rw [hvalue, admits]
  · rw [admits_nullable_of_ne hvalue, h]

section

variable {fields rest : List (String × Schema)} {required : List String} {members : Entries Json}
  {name : String} {α : Type}

/-- What the fields of a record ask of the members of an object. -/
def Fits (named : String → Json → Verdict) (fields : List (String × Schema))
    (members : Entries Json) : Prop :=
  ∀ field ∈ fields, admitsProperty named field members = some true

/-- Where nothing is asked for, any members do. -/
theorem Fits.nil : Fits named [] members := fun _ h => nomatch h

/-- A member that is there. -/
theorem Fits.given (hget : Entries.get? name members = some value)
    (h : schema.admits named value = some true) (hrest : Fits named rest members) :
    Fits named ((name, schema) :: rest) members := by
  refine List.forall_mem_cons.2 ⟨?_, hrest⟩
  rw [admitsProperty, hget]
  exact h

/-- A member that is left out. -/
theorem Fits.absent (hget : Entries.get? name members = none) (hrest : Fits named rest members) :
    Fits named ((name, schema) :: rest) members := by
  refine List.forall_mem_cons.2 ⟨?_, hrest⟩
  rw [admitsProperty, hget]

/-- A member that is left out if it has no value. -/
theorem Fits.maybe (write : α → Json) (o : Option α)
    (hget : Entries.get? name members = o.map write)
    (h : ∀ a, schema.admits named (write a) = some true) (hrest : Fits named rest members) :
    Fits named ((name, schema) :: rest) members := by
  cases o with
  | some a => exact .given hget (h a) hrest
  | none => exact .absent hget hrest

/-- A record admits members that fit its fields, if those that have to be there are. -/
theorem Fits.admits_record (h : Fits named fields members)
    (hrequired : ∀ name ∈ required, name ∈ Entries.keys members) :
    (record fields required).admits named (.obj members) = some true := by
  -- A record asks two things of an object: of its members, and of their names.
  have hfields : all (admitsProperties named fields members) = some true := by
    rw [admitsProperties_eq_map, all_eq_true_iff, List.forall_mem_map]
    exact h
  have hnames : (required.all fun name => name ∈ Entries.keys members) = true := by
    simpa using hrequired
  rw [admits, hfields, hnames, all_pair_true]

/-- One member that its field does not admit is enough for a record not to admit the object. -/
theorem admits_record_eq_false (hfield : (name, schema) ∈ fields)
    (hget : Entries.get? name members = some value) (h : schema.admits named value = some false) :
    (record fields required).admits named (.obj members) = some false := by
  have hfields : all (admitsProperties named fields members) = some false := by
    rw [admitsProperties_eq_map]
    refine all_eq_false_of_mem (List.mem_map.2 ⟨_, hfield, ?_⟩)
    rw [admitsProperty, hget]
    exact h
  rw [admits, hfields, all_false_cons]

end

end Schema

open Schema

namespace Schema

variable {named : String → Json → Verdict} {schema : Schema} {α : Type} {write : α → Json}

/-- A list of values is admitted as they are written, one by one. -/
theorem admits_map (h : ∀ a, schema.admits named (write a) = some true) (l : List α) :
    (absentOrList schema).admits named (.arr (l.map write)) = some true :=
  admits_listOf.2 (List.forall_mem_map.2 fun a _ => h a)

theorem admits_ofTexts (texts : List String) :
    (listOf .text).admits named (.ofTexts texts) = some true :=
  admits_map admits_text_str texts

theorem admits_ofBindings (bindings : Bindings String) :
    (mapOf .text).admits named (.ofBindings .str bindings) = some true :=
  admits_mapOf.2 (List.forall_mem_map.2 fun pair _ => admits_text_str pair.2)

end Schema

/-! ### Types of output -/

section

variable {named : String → Json → Verdict}

/-- All members of a layer are written, and its schema refers to no other. -/
theorem LayerSpec.admits_toJson (layer : LayerSpec) :
    LayerSpec.schema.admits named layer.toJson = some true :=
  Fits.admits_record (.given rfl rfl (.given rfl rfl (.given rfl (admits_ofTexts _) .nil)))
    (by simp [Entries.keys])

theorem KeyElement.admits_toJson (element : KeyElement) :
    KeyElement.schema.admits named element.toJson = some true :=
  Fits.admits_record (.given rfl rfl (.given rfl rfl .nil)) (by simp [Entries.keys])

theorem AttributeDefinition.admits_toJson (definition : AttributeDefinition) :
    AttributeDefinition.schema.admits named definition.toJson = some true :=
  Fits.admits_record (.given rfl rfl (.given rfl rfl .nil)) (by simp [Entries.keys])

theorem Throughput.admits_toJson (throughput : Throughput) :
    Throughput.schema.admits named throughput.toJson = some true :=
  Fits.admits_record (.given rfl (admits_whole_ofInt64 _)
    (.given rfl (admits_whole_ofInt64 _) .nil)) (by simp [Entries.keys])

/-- Both members of a projection may be left out. -/
theorem Projection.admits_toJson (projection : Projection) :
    Projection.schema.admits named projection.toJson = some true := by
  obtain ⟨nonKeyAttributes, projectionType⟩ := projection
  have hlast : Fits named [("ProjectionType", optionalText)]
      ((if nonKeyAttributes.isEmpty then [] else [("NonKeyAttributes", .ofTexts nonKeyAttributes)])
        ++ Json.optional "ProjectionType" .str projectionType) :=
    .maybe .str projectionType (by cases nonKeyAttributes <;> simp [Entries.get?])
      (fun _ => rfl) .nil
  refine Fits.admits_record ?_ fun _ h => absurd h List.not_mem_nil
  -- An empty list of attributes is left out.
  cases nonKeyAttributes with
  | nil => exact .absent (by simp) hlast
  | cons first rest => exact .given rfl (admits_ofTexts (first :: rest)) hlast

/-- A member of a rule that may be left out could be null as well, but is never written so. -/
theorem LifecycleRule.admits_toJson (rule : LifecycleRule) :
    LifecycleRule.schema.admits named rule.toJson = some true := by
  refine Fits.admits_record (.maybe .str rule.id ?_ (fun _ => rfl)
    (.given ?_ (admits_text_str rule.status)
    (.maybe .str rule.namePrefix ?_ (fun _ => rfl)
    (.maybe .ofInt64 rule.expirationInDays ?_
      (fun _ => admits_nullable (admits_whole_ofInt64 _))
    .nil)))) (by simp [Entries.keys])
  all_goals simp [Entries.get?]

theorem Scaling.admits_toJson (scaling : Scaling) :
    Scaling.schema.admits named scaling.toJson = some true := by
  refine Fits.admits_record (.maybe .ofInt64 scaling.maxCapacity ?_
    (fun _ => admits_nullable (admits_whole_ofInt64 _)) (.maybe .ofInt64 scaling.minCapacity ?_
      (fun _ => admits_nullable (admits_whole_ofInt64 _)) .nil)) (fun _ h => nomatch h)
  all_goals simp

theorem RuntimeManagement.admits_toJson (management : RuntimeManagement) :
    RuntimeManagement.schema.admits named management.toJson = some true :=
  Fits.admits_record (.given rfl rfl .nil) (by simp [Entries.keys])

end

section

variable {depth : Nat} {named : String → Json → Verdict}

/-- What a definition admits, its name admits one reference further. -/
theorem Schema.admits_definition {name : String} {schema : Schema} {value : Json}
    (hdefinition : Compilation.schema.definition? name = some schema)
    (h : schema.admits (Compilation.schema.named depth) value = some true) :
    (Schema.named name).admits (Compilation.schema.named (depth + 1)) value = some true := by
  rw [Schema.admits, SchemaDocument.named, hdefinition, Option.bind_some, h]

/-- An index refers to the schemas of its parts, which takes one reference. -/
theorem SecondaryIndex.admits_toJson (index : SecondaryIndex) :
    SecondaryIndex.schema.admits (Compilation.schema.named (depth + 1)) index.toJson
      = some true := by
  refine Fits.admits_record (.given rfl rfl (.given rfl
    (admits_map (fun element => admits_definition rfl element.admits_toJson) index.keySchema)
    (.maybe Projection.toJson index.projection ?_
      (fun projection => admits_nullable (admits_definition rfl projection.admits_toJson))
    (.maybe Throughput.toJson index.provisionedThroughput ?_
      (fun throughput => admits_nullable (admits_definition rfl throughput.admits_toJson))
    .nil)))) (by simp [Entries.keys])
  all_goals simp [Entries.get?]

/-- A table refers to its indexes, and so takes one reference more. -/
theorem TableSpec.admits_toJson (table : TableSpec) :
    TableSpec.schema.admits (Compilation.schema.named (depth + 2)) table.toJson = some true := by
  refine Fits.admits_record (.given rfl rfl (.given rfl
    (admits_map (fun element => admits_definition rfl element.admits_toJson) table.keySchema)
    (.given rfl (admits_map (fun definition => admits_definition rfl definition.admits_toJson)
      table.attributeDefinitions)
    (.given rfl (admits_map (fun index => admits_definition rfl index.admits_toJson)
      table.globalSecondaryIndexes)
    (.given rfl rfl
    (.maybe Throughput.toJson table.provisionedThroughput ?_
      (fun throughput => admits_nullable (admits_definition rfl throughput.admits_toJson))
    .nil)))))) (by simp [Entries.keys])
  simp [Entries.get?]

theorem Lifecycle.admits_toJson (lifecycle : Lifecycle) :
    Lifecycle.schema.admits (Compilation.schema.named (depth + 1)) lifecycle.toJson = some true :=
  Fits.admits_record (.given rfl
    (admits_map (fun rule => admits_definition rfl rule.admits_toJson) lifecycle.rules) .nil)
    (fun _ h => nomatch h)

theorem BucketSpec.admits_toJson (bucket : BucketSpec) :
    BucketSpec.schema.admits (Compilation.schema.named (depth + 2)) bucket.toJson = some true := by
  refine Fits.admits_record (.given rfl rfl
    (.maybe Lifecycle.toJson bucket.lifecycleConfiguration ?_
      (fun lifecycle => admits_nullable (admits_definition rfl lifecycle.admits_toJson))
    .nil)) (by simp [Entries.keys])
  simp [Entries.get?]

/-- The resources refer to tables, which makes three references in a row. -/
theorem ResourceSpecs.admits_toJson (specs : ResourceSpecs) :
    ResourceSpecs.schema.admits (Compilation.schema.named (depth + 3)) specs.toJson = some true :=
  Fits.admits_record (.given rfl
    (admits_map (fun table => admits_definition rfl table.admits_toJson) specs.tables)
    (.given rfl
      (admits_map (fun bucket => admits_definition rfl bucket.admits_toJson) specs.buckets)
    (.given rfl (admits_map (fun layer => admits_definition rfl layer.admits_toJson) specs.layers)
    .nil))) (fun _ h => nomatch h)

/-! ### Shapes -/

/-- The schemas of which one has to admit a value. -/
def Schema.shapes : Schema → List Schema
  | .oneOf schemas => schemas
  | .described _ schema | .defaulting _ schema => schema.shapes
  | _ => []

/-- A package of code is admitted by its own schema and not by that of an image, since the tag
    is another one. -/
theorem Packaging.admitsEach_zip (code : CodePackage) :
    admitsEach (Compilation.schema.named (depth + 1)) Packaging.schema.shapes (zip code).toJson
      = [some true, some false] := by
  refine congrArg₂ (fun first second => [first, second]) ?_ ?_
  · exact Fits.admits_record (.given rfl rfl (.given rfl rfl
      (.given rfl rfl (.given rfl rfl
      (.given rfl rfl
      (.given rfl (admits_map (fun layer => admits_definition rfl layer.admits_toJson) code.layers)
      .nil)))))) (by simp [Entries.keys, CodePackage.members])
  · -- The first field of the other shape is the tag, which has another name for its value.
    exact admits_record_eq_false List.mem_cons_self rfl rfl

/-- A package of an image is admitted the other way round; it refers to nothing. -/
theorem Packaging.admitsEach_image (package : ImagePackage) :
    admitsEach named Packaging.schema.shapes (image package).toJson
      = [some false, some true] := by
  refine congrArg₂ (fun first second => [first, second]) ?_ ?_
  · exact admits_record_eq_false List.mem_cons_self rfl rfl
  · exact Fits.admits_record (.given rfl rfl (.given rfl rfl
      .nil)) (by simp [Entries.keys, ImagePackage.members])

/-- A call of an interface is not a schedule. -/
theorem Event.admitsEach_api (path method : String) :
    admitsEach named Event.schema.shapes (api path method).toJson = [some true, some false] := by
  refine congrArg₂ (fun first second => [first, second]) ?_ ?_
  · exact Fits.admits_record (.given rfl rfl (.given rfl rfl
      (.given rfl rfl .nil))) (by simp [Entries.keys])
  · exact admits_record_eq_false List.mem_cons_self rfl rfl

/-- A schedule is not a call of an interface, with an input or without one. -/
theorem Event.admitsEach_schedule (expression : String) (input : Option String) :
    admitsEach named Event.schema.shapes (schedule expression input).toJson
      = [some false, some true] := by
  refine congrArg₂ (fun first second => [first, second]) ?_ ?_
  · exact admits_record_eq_false List.mem_cons_self rfl rfl
  · exact Fits.admits_record (.given rfl rfl (.given rfl rfl
      (.maybe .str input (by simp [Entries.get?]) (fun _ => rfl) .nil))) (by simp [Entries.keys])

/-- Exactly one of the two admits a package, which is what is asked for. -/
theorem Packaging.admits_toJson (packaging : Packaging) :
    Packaging.schema.admits (Compilation.schema.named (depth + 1)) packaging.toJson
      = some true := by
  cases packaging with
  | zip code => exact congrArg Verdict.exactlyOne (admitsEach_zip code)
  | image package => exact congrArg Verdict.exactlyOne (admitsEach_image package)

theorem Event.admits_toJson (event : Event) :
    Event.schema.admits named event.toJson = some true := by
  cases event with
  | api path method => exact congrArg Verdict.exactlyOne (admitsEach_api path method)
  | schedule expression input =>
    exact congrArg Verdict.exactlyOne (admitsEach_schedule expression input)

/-! ### Compilations -/

/-- A function refers to its package, which may refer to layers. -/
theorem FunctionSpec.admits_toJson (function : FunctionSpec) :
    FunctionSpec.schema.admits (Compilation.schema.named (depth + 2)) function.toJson
      = some true := by
  refine Fits.admits_record (.given rfl rfl
    (.given rfl rfl
    (.given rfl (admits_definition rfl function.packaging.admits_toJson)
    (.given rfl (admits_described.trans (admits_whole_ofInt64 function.timeout))
    (.given rfl (admits_described.trans (admits_whole_ofInt64 function.memorySize))
    (.given rfl (admits_ofBindings function.environment)
    (.given rfl (admits_ofTexts function.architectures)
    (.given rfl (admits_definition rfl function.scaling.admits_toJson)
    (.given rfl
      (admits_map (fun event => admits_definition rfl event.admits_toJson) function.events)
    (.maybe RuntimeManagement.toJson function.runtimeManagement ?_
      (fun management => admits_nullable (admits_definition rfl management.admits_toJson))
    .nil)))))))))) (by simp [Entries.keys])
  simp [Entries.get?]

/-- A compilation is admitted with four references in a row: to its resources, their tables,
    the indexes of those, and the parts of an index. -/
theorem Compilation.admits_toJson (compilation : Compilation) :
    Compilation.schema.root.admits (Compilation.schema.named (depth + 4)) compilation.toJson
      = some true :=
  Fits.admits_record (.given rfl
    (admits_map (fun function => admits_definition rfl function.admits_toJson)
      compilation.functions)
    (.given rfl (admits_definition rfl compilation.resources.admits_toJson)
    (.given rfl (admits_ofTexts compilation.warnings) .nil))) (fun _ h => nomatch h)

/-- No record of the published schema has a field twice, and whatever is referred to is a
    definition. -/
theorem Compilation.schema_wellFormed : Compilation.schema.WellFormed where
  root := by decide
  definitions := by decide
  closed := by decide +kernel

/-- The alternatives that the document has for a package are those of its schema. -/
theorem Packaging.branches_eq (packaging : Packaging) :
    Compilation.schema.toJson.branches depth "#/definitions/Packaging" packaging.toJson
      = admitsEach (Compilation.schema.named depth) Packaging.schema.shapes packaging.toJson :=
  SchemaDocument.branches_toJson Compilation.schema_wellFormed "Packaging" Packaging.schema.shapes
    (by decide) rfl (by decide) rfl

theorem Event.branches_eq (event : Event) :
    Compilation.schema.toJson.branches depth "#/definitions/EventSpec" event.toJson
      = admitsEach (Compilation.schema.named depth) Event.schema.shapes event.toJson :=
  SchemaDocument.branches_toJson Compilation.schema_wellFormed "EventSpec" Event.schema.shapes
    (by decide) rfl (by decide) rfl

/-- The published schema accepts every compilation, and whatever it refers to is there. Of the
    two shapes of packages, and of events, one admits a value and the other does not. -/
theorem Compilation.schema_accepts (compilation : Compilation) :
    schema.toJson.Accepts compilation.toJson
      ∧ (∀ reference ∈ schema.toJson.references, ∃ definition ∈ schema.definitions,
          schema.toJson.target? reference = some definition.2.toJson)
      ∧ (∀ depth code, schema.toJson.branches (depth + 1) "#/definitions/Packaging"
          (Packaging.zip code).toJson = [some true, some false])
      ∧ (∀ depth image, schema.toJson.branches depth "#/definitions/Packaging"
          (Packaging.image image).toJson = [some false, some true])
      ∧ (∀ depth path method, schema.toJson.branches depth "#/definitions/EventSpec"
          (Event.api path method).toJson = [some true, some false])
      ∧ ∀ depth expression input, schema.toJson.branches depth "#/definitions/EventSpec"
          (Event.schedule expression input).toJson = [some false, some true] := by
  refine ⟨⟨4, fun depth h => ?_⟩, fun reference =>
    SchemaDocument.exists_target?_of_mem schema_wellFormed, fun depth code => ?_,
    fun depth image => ?_, fun depth path method => ?_, fun depth expression input => ?_⟩
  · -- Four references in a row are enough, and so is any greater number of them.
    obtain ⟨more, rfl⟩ := Nat.exists_eq_add_of_le' h
    rw [SchemaDocument.validateWithin_document schema_wellFormed, admits_toJson]
  · rw [Packaging.branches_eq, Packaging.admitsEach_zip]
  · rw [Packaging.branches_eq, Packaging.admitsEach_image]
  · rw [Event.branches_eq, Event.admitsEach_api]
  · rw [Event.branches_eq, Event.admitsEach_schedule]

end

end SamTemplate
