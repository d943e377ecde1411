import SamTemplate.Output.Encoding
import SamTemplate.Output.Decoding
import SamTemplate.Proofs.CompiledFunctions

/-!
# Reading the output back

What the output is written as is read back as it was. A record is read field by field:
the members of its JSON have different names, each is what its field asks for, and a
field that is left out has the value that it has without being given
(`Fields.Reads`). So the JSON of the output tells all of it.

* `Reader.record_eq_ok`: a record is read from members that its fields are read from;
* `FunctionSpec.toJson_injective`, `ResourceSpecs.toJson_injective`: what has the same JSON
  is the same.
-/

namespace SamTemplate

/-! ### Looking members up -/

namespace Entries

variable {α : Type} {key : String} {entries entries' : Entries α}

/-- A key is looked up in the first entries, and then in the others. -/
@[simp]
theorem get?_append :
    get? key (entries ++ entries') = (get? key entries).or (get? key entries') := by
  induction entries with
  | nil => rfl
  | cons pair rest ih =>
    -- The first entry with the key is the one that counts.
    rw [List.cons_append, get?_cons, get?_cons]
    split
    · rfl
    · exact ih

/-- A member that may be left out is found under its name if it has a value. -/
@[simp]
theorem get?_optional {β : Type} {name : String} {f : β → Json} {value : Option β} :
    get? key (Json.optional name f value) = if name = key then value.map f else none := by
  cases value with
  | none => simp [Json.optional, get?]
  | some value => rfl

end Entries

/-! ### Values that are there -/

theorem Json.int_ne_null {value : Int} : int value ≠ .null := by rintro ⟨⟩

theorem Json.str_ne_null {value : String} : str value ≠ .null := by rintro ⟨⟩

theorem Json.obj_ne_null {members : List (String × Json)} : obj members ≠ .null := by rintro ⟨⟩

/-! ### Records -/

namespace Fields

variable {α β : Type} {members : Entries Json} {name : String} {json : Json} {read : Reader α}
  {a : α} {f : α → β} {fields : Fields (α → β)}

/-- The fields are read from members to this value, and no member is a misfit. -/
structure Reads (fields : Fields α) (members : Entries Json) (a : α) : Prop where
  build : ∀ place, fields.build place
    ⟨fun _ name => members.get? name, fun _ name => .missing name⟩ = .ok a
  fits : ∀ member ∈ members, fields.misfit? member.1 member.2 = none

theorem reads_nothing (a : α) (members : Entries Json) : (nothing a).Reads members a :=
  ⟨fun _ => rfl, fun _ _ => rfl⟩

/-- Fields that are read from the same members are read one after another. -/
theorem Reads.append {second : Fields α} (hf : fields.Reads members f)
    (ha : second.Reads members a) : (fields.append second).Reads members (f a) := by
  constructor
  · intro place
    simp only [Fields.append, hf.build, ha.build, bind, Except.bind, pure, Except.pure]
  · intro member hmem
    simp only [Fields.append, hf.fits member hmem, ha.fits member hmem, Option.or_none]

/-- A field that is given is read. -/
theorem reads_field (hd : members.Distinct) (hget : members.get? name = some json)
    (hread : read json = .ok a) (fallback : Option α) :
    (field name read fallback).Reads members a := by
  constructor
  · intro place
    simp only [field, hget, hread]
  · intro member hmem
    simp only [field]
    split
    · rename_i hname
      -- No other member has the name of the field.
      have hjson : members.get? name = some member.2 :=
        (Entries.get?_eq_some_iff hd).2 (hname ▸ hmem)
      obtain rfl := Option.some.inj (hget.symm.trans hjson)
      rw [hread]
    · rfl

/-- A field that is left out has its value without being given. -/
theorem reads_field_absent (hget : members.get? name = none) (fallback : α) :
    (field name read (some fallback)).Reads members fallback := by
  constructor
  · intro place
    simp only [field, hget]
  · intro member hmem
    have hne : member.1 ≠ name := fun hname =>
      Entries.get?_eq_none_iff.1 hget (hname ▸ List.mem_map_of_mem hmem)
    simp only [field, if_neg hne]

/-- A field without a default is read from the member that gives it. -/
theorem Reads.required (hf : fields.Reads members f) (hd : members.Distinct)
    (hget : members.get? name = some json) (hread : read json = .ok a) :
    (fields.required name read).Reads members (f a) :=
  hf.append (reads_field hd hget hread none)

/-- A field with a default is read from the member that gives it, too. -/
theorem Reads.optional {fallback : α} (hf : fields.Reads members f) (hd : members.Distinct)
    (hget : members.get? name = some json) (hread : read json = .ok a) :
    (fields.optional name read fallback).Reads members (f a) :=
  hf.append (reads_field hd hget hread (some fallback))

/-- A member that is left out if it has no value. -/
theorem Reads.maybe {γ : Type} {fields : Fields (Option γ → β)} {f : Option γ → β}
    {read : Reader γ} (write : γ → Json) {value : Option γ} (hf : fields.Reads members f)
    (hd : members.Distinct) (hget : members.get? name = value.map write)
    (hnull : ∀ c, write c ≠ .null) (hread : ∀ c, read (write c) = .ok c) :
    (fields.optional name (Reader.optional read) none).Reads members (f value) := by
  rcases value with _ | value
  · exact hf.append (reads_field_absent hget none)
  · refine hf.optional hd hget ?_
    -- What is written of a value is not null, which would be read as no value.
    unfold Reader.optional
    split
    · exact absurd ‹_› (hnull value)
    · rw [hread]
      rfl

end Fields

namespace Reader

variable {α : Type}

/-- What is read back as it was is written unlike anything else. -/
theorem write_injective {read : Reader α} {write : α → Json} (h : ∀ a, read (write a) = .ok a) :
    Function.Injective write := fun a b heq =>
  Except.ok.inj ((h a).symm.trans ((congrArg read heq).trans (h b)))

/-- A record is read from members of different names that its fields are read from. -/
theorem record_eq_ok {fields : Fields α} {members : Entries Json} {a : α} {stage : Stage}
    {what : String} (hd : members.Distinct) (h : members.Distinct → fields.Reads members a) :
    record stage what fields (.obj members) = .ok a := by
  have hfits : (members.findSome? fun member => fields.misfit? member.1 member.2) = none :=
    List.findSome?_eq_none_iff.2 (h hd).fits
  rw [record]
  split
  · rename_i hmisfit
    exact absurd (hfits.symm.trans hmisfit) (Option.some_ne_none _).symm
  · exact (h hd).build 0

/-- A value is read by the reader of the shape that its first member names. -/
theorem shaped_eq_ok {tag what name : String} {shapes : List (String × Reader α)}
    {members : List (String × Json)} {read : Reader α} {a : α}
    (hlookup : shapes.lookup name = some read) (htag : ∀ member ∈ members, member.1 ≠ tag)
    (hread : read (.obj members) = .ok a) :
    shaped tag what shapes (.obj ((tag, .str name) :: members)) = .ok a := by
  have hget : Entries.get? tag ((tag, Json.str name) :: members) = some (.str name) := by
    rw [Entries.get?_cons, if_pos rfl]
  -- The tag is taken out again, and nothing else is.
  have hrest : ((tag, Json.str name) :: members).filter (fun member => member.1 ≠ tag)
      = members := by
    rw [List.filter_cons_of_neg (by simp)]
    exact List.filter_eq_self.2 fun member hmem => by simpa using htag member hmem
  simp only [shaped, hget, hlookup, hrest, hread]

/-- A list is read back if its elements are. -/
theorem list_eq_ok {read : Reader α} {write : α → Json} {l : List α}
    (h : ∀ a ∈ l, read (write a) = .ok a) : list read (.arr (l.map write)) = .ok l := by
  change elements read (l.map write) = _
  induction l with
  | nil => rfl
  | cons a l ih =>
    obtain ⟨ha, hl⟩ := List.forall_mem_cons.1 h
    rw [List.map_cons, elements, ha, ih hl]
    rfl

theorem list_text_eq_ok (texts : List String) : list text (Json.ofTexts texts) = .ok texts :=
  list_eq_ok fun _ _ => rfl

/-- A map is read back from its entries, which are in order and so are put in again in the same
    order. -/
theorem bindings_text_eq_ok (bindings : Bindings String) :
    Reader.bindings text (.ofBindings .str bindings) = .ok bindings := by
  have hvalues (entries : Entries String) :
      values text (entries.map fun (key, value) => (key, Json.str value)) = .ok entries := by
    induction entries with
    | nil => rfl
    | cons pair rest ih =>
      rw [List.map_cons, values, ih]
      rfl
  change (values text (bindings.entries.map _)).map Bindings.ofList = _
  rw [hvalues]
  refine congrArg Except.ok (Bindings.ext_get? fun key => ?_)
  rw [Bindings.ofList, Bindings.get?_insertAll _ bindings.sorted.distinct]
  exact Option.or_none

/-- A number of 64 bits is within the range of those numbers. -/
theorem int64OfInt?_toInt (i : Int64) : int64OfInt? i.toInt = some i := by
  have hrange : int64Min ≤ i.toInt ∧ i.toInt ≤ int64Max :=
    ⟨i.le_toInt, Int.le_sub_one_of_lt i.toInt_lt⟩
  rw [int64OfInt?, if_pos hrange, Int64.ofInt_toInt]

theorem int64_eq_ok (i : Int64) : int64 (.ofInt64 i) = .ok i := by
  simp only [int64, Json.ofInt64, int64OfInt?_toInt]

/-- The lenient reader of numbers takes what the strict one does, too. -/
theorem lenientInt64_eq_ok (i : Int64) : lenientInt64 (.ofInt64 i) = .ok i := by
  simp only [lenientInt64, Json.ofInt64, scalar, int64OfInt?_toInt]
  rfl

end Reader

/-! ### Types of output -/

open Json Reader Fields

/-- A record is read back when each of its fields is, in their order. Where a reader of a single
    text or truth value is applied to one, that is so by computation. -/
theorem LayerSpec.read_toJson (stage : Stage) (layer : LayerSpec) :
    LayerSpec.read stage layer.toJson = .ok layer := by
  obtain ⟨name, contentUri, compatibleArchitectures⟩ := layer
  refine record_eq_ok (by simp [Entries.Distinct, Entries.keys]) fun hd => ?_
  refine .optional (.required (.required ?_ hd rfl rfl) hd rfl rfl) hd rfl (list_text_eq_ok _)
  exact reads_nothing _ _

theorem KeyElement.read_toJson (element : KeyElement) :
    KeyElement.read element.toJson = .ok element := by
  obtain ⟨attributeName, keyType⟩ := element
  refine record_eq_ok (by simp [Entries.Distinct, Entries.keys]) fun hd => ?_
  exact .required (.required (reads_nothing _ _) hd rfl rfl) hd rfl rfl

theorem AttributeDefinition.read_toJson (definition : AttributeDefinition) :
    AttributeDefinition.read definition.toJson = .ok definition := by
  obtain ⟨attributeName, attributeType⟩ := definition
  refine record_eq_ok (by simp [Entries.Distinct, Entries.keys]) fun hd => ?_
  exact .required (.required (reads_nothing _ _) hd rfl rfl) hd rfl rfl

theorem Throughput.read_toJson (throughput : Throughput) :
    Throughput.read throughput.toJson = .ok throughput := by
  obtain ⟨readCapacityUnits, writeCapacityUnits⟩ := throughput
  refine record_eq_ok (by simp [Entries.Distinct, Entries.keys]) fun hd => ?_
  refine .required (.required ?_ hd rfl (lenientInt64_eq_ok _)) hd rfl (lenientInt64_eq_ok _)
  exact reads_nothing _ _

/-- A projection without attributes has no list of them in its JSON, and gets the empty list by
    default. -/
theorem Projection.read_toJson (projection : Projection) :
    Projection.read projection.toJson = .ok projection := by
  obtain ⟨nonKeyAttributes, projectionType⟩ := projection
  -- Three goals are left: the names differ, the list is read, the type is found after it.
  refine record_eq_ok ?_ fun hd => .maybe .str ?_ hd ?_ (fun _ => str_ne_null) fun _ => rfl
  · cases nonKeyAttributes <;> cases projectionType <;>
      simp [Entries.Distinct, Entries.keys, Json.optional]
  · -- An empty list of attributes is left out.
    rcases nonKeyAttributes with _ | ⟨first, rest⟩
    · exact (reads_nothing _ _).append (reads_field_absent (by simp) [])
    · exact .optional (reads_nothing _ _) hd rfl (list_text_eq_ok (first :: rest))
  · cases nonKeyAttributes <;> simp [Entries.get?]

theorem SecondaryIndex.read_toJson (index : SecondaryIndex) :
    SecondaryIndex.read index.toJson = .ok index := by
  obtain ⟨indexName, keySchema, projection, provisionedThroughput⟩ := index
  refine record_eq_ok ?_ fun hd => ?_
  · cases projection <;> cases provisionedThroughput <;>
      simp [Entries.Distinct, Entries.keys, Json.optional]
  · refine .maybe Throughput.toJson (.maybe Projection.toJson ?_ hd (by simp [Entries.get?])
      (fun _ => obj_ne_null) Projection.read_toJson) hd (by simp [Entries.get?])
      (fun _ => obj_ne_null) Throughput.read_toJson
    exact .optional (.required (reads_nothing _ _) hd rfl rfl) hd rfl
      (list_eq_ok fun element _ => element.read_toJson)

/-- A table has three lists of records, which are read back element by element. -/
theorem TableSpec.read_toJson (table : TableSpec) :
    TableSpec.read table.toJson = .ok table := by
  obtain ⟨tableName, keySchema, attributeDefinitions, globalSecondaryIndexes, billingMode,
    provisionedThroughput⟩ := table
  refine record_eq_ok ?_ fun hd => ?_
  · cases provisionedThroughput <;> simp [Entries.Distinct, Entries.keys, Json.optional]
  · refine .maybe Throughput.toJson (.required (.optional (.optional (.optional (.required ?_ hd rfl
      rfl) hd rfl ?_) hd rfl ?_) hd rfl ?_) hd rfl rfl) hd (by simp [Entries.get?])
      (fun _ => obj_ne_null) Throughput.read_toJson
    · exact reads_nothing _ _
    · exact list_eq_ok fun element _ => element.read_toJson
    · exact list_eq_ok fun definition _ => definition.read_toJson
    · exact list_eq_ok fun index _ => index.read_toJson

/-- Three of the four members of a rule may be missing. -/
theorem LifecycleRule.read_toJson (rule : LifecycleRule) :
    LifecycleRule.read rule.toJson = .ok rule := by
  obtain ⟨id, status, namePrefix, expirationInDays⟩ := rule
  refine record_eq_ok ?_ fun hd => ?_
  · cases id <;> cases namePrefix <;> cases expirationInDays <;>
      simp [Entries.Distinct, Entries.keys, Json.optional]
  · have hstatus : lenientText (.str status) = .ok status := rfl
    refine .maybe .ofInt64 (.maybe .str (.required (.maybe .str ?_ hd ?_ (fun _ => str_ne_null)
      fun _ => rfl) hd ?_ hstatus) hd ?_ (fun _ => str_ne_null) fun _ => rfl) hd ?_
      (fun _ => int_ne_null) lenientInt64_eq_ok
    · exact reads_nothing _ _
    all_goals simp [Entries.get?]

theorem Lifecycle.read_toJson (lifecycle : Lifecycle) :
    Lifecycle.read lifecycle.toJson = .ok lifecycle := by
  obtain ⟨rules⟩ := lifecycle
  refine record_eq_ok (by simp [Entries.Distinct, Entries.keys]) fun hd => ?_
  exact .optional (reads_nothing _ _) hd rfl (list_eq_ok fun rule _ => rule.read_toJson)

theorem BucketSpec.read_toJson (bucket : BucketSpec) :
    BucketSpec.read bucket.toJson = .ok bucket := by
  obtain ⟨bucketName, lifecycleConfiguration⟩ := bucket
  refine record_eq_ok ?_ fun hd => ?_
  · cases lifecycleConfiguration <;> simp [Entries.Distinct, Entries.keys, Json.optional]
  · exact .maybe Lifecycle.toJson (.required (reads_nothing _ _) hd rfl rfl) hd
      (by simp [Entries.get?]) (fun _ => obj_ne_null) Lifecycle.read_toJson

theorem ResourceSpecs.read_toJson (specs : ResourceSpecs) :
    ResourceSpecs.read specs.toJson = .ok specs := by
  obtain ⟨tables, buckets, layers⟩ := specs
  refine record_eq_ok (by simp [Entries.Distinct, Entries.keys]) fun hd => ?_
  refine .optional (.optional (.optional (reads_nothing _ _) hd rfl ?_) hd rfl ?_) hd rfl ?_
  · exact list_eq_ok fun table _ => table.read_toJson
  · exact list_eq_ok fun bucket _ => bucket.read_toJson
  · exact list_eq_ok fun layer _ => layer.read_toJson .direct

/-! ### Functions -/

theorem CodePackage.read_toJson (stage : Stage) (code : CodePackage) :
    CodePackage.read stage code.toJson = .ok code := by
  obtain ⟨runtime, handler, codeUri, hasRequirements, layers⟩ := code
  refine record_eq_ok (by simp [Entries.Distinct, Entries.keys, CodePackage.members]) fun hd => ?_
  refine .optional (.optional (.required (.required (.required ?_ hd rfl rfl) hd rfl rfl) hd rfl
    rfl) hd rfl rfl) hd rfl (list_eq_ok fun layer _ => layer.read_toJson stage)
  exact reads_nothing _ _

theorem ImagePackage.read_toJson (stage : Stage) (image : ImagePackage) :
    ImagePackage.read stage image.toJson = .ok image := by
  obtain ⟨imageSource⟩ := image
  refine record_eq_ok (by simp [Entries.Distinct, Entries.keys, ImagePackage.members]) fun hd => ?_
  exact .required (reads_nothing _ _) hd rfl rfl

theorem Scaling.read_toJson (scaling : Scaling) : Scaling.read scaling.toJson = .ok scaling := by
  obtain ⟨maxCapacity, minCapacity⟩ := scaling
  refine record_eq_ok ?_ fun hd => ?_
  · cases maxCapacity <;> cases minCapacity <;>
      simp [Entries.Distinct, Entries.keys, Json.optional]
  · refine .maybe .ofInt64 (.maybe .ofInt64 ?_ hd ?_ (fun _ => int_ne_null) int64_eq_ok) hd ?_
      (fun _ => int_ne_null) int64_eq_ok
    · exact reads_nothing _ _
    all_goals simp

theorem RuntimeManagement.read_toJson (management : RuntimeManagement) :
    RuntimeManagement.read management.toJson = .ok management := by
  obtain ⟨updateRuntimeOn⟩ := management
  refine record_eq_ok (by simp [Entries.Distinct, Entries.keys]) fun hd => ?_
  exact .required (reads_nothing _ _) hd rfl rfl

/-- The tag tells which shape was written, and the others are the members of that shape. -/
theorem Packaging.read_toJson (packaging : Packaging) :
    Packaging.read packaging.toJson = .ok packaging := by
  rcases packaging with code | image
  · refine shaped_eq_ok rfl (by simp [CodePackage.members]) ?_
    change (CodePackage.read .setAside code.toJson).map _ = _
    rw [CodePackage.read_toJson]
    rfl
  · refine shaped_eq_ok rfl (by simp [ImagePackage.members]) ?_
    change (ImagePackage.read .setAside image.toJson).map _ = _
    rw [ImagePackage.read_toJson]
    rfl

/-- The tag tells the kind of an event, and the others are the members of that kind. -/
theorem Event.read_toJson (event : Event) : Event.read event.toJson = .ok event := by
  rcases event with ⟨path, method⟩ | ⟨expression, input⟩
  · refine shaped_eq_ok rfl (by simp) ?_
    refine record_eq_ok (by simp [Entries.Distinct, Entries.keys]) fun hd => ?_
    exact .required (.required (reads_nothing _ _) hd rfl rfl) hd rfl rfl
  · refine shaped_eq_ok rfl (by cases input <;> simp [Json.optional]) ?_
    refine record_eq_ok ?_ fun hd => ?_
    · cases input <;> simp [Entries.Distinct, Entries.keys, Json.optional]
    · exact .maybe .str (.required (reads_nothing _ _) hd rfl rfl) hd (by simp [Entries.get?])
        (fun _ => str_ne_null) fun _ => rfl

/-- The last field of a function may be missing; the other ones are always written. -/
theorem FunctionSpec.read_toJson (function : FunctionSpec) :
    FunctionSpec.read function.toJson = .ok function := by
  obtain ⟨logicalId, name, packaging, timeout, memorySize, environment, architectures, scaling,
    events, runtimeManagement⟩ := function
  refine record_eq_ok ?_ fun hd => ?_
  · cases runtimeManagement <;> simp [Entries.Distinct, Entries.keys, Json.optional]
  · refine .maybe RuntimeManagement.toJson (.optional (.optional (.optional (.optional ?_ hd rfl ?_)
      hd rfl ?_) hd rfl ?_) hd rfl ?_) hd (by simp [Entries.get?]) (fun _ => obj_ne_null)
      RuntimeManagement.read_toJson
    · refine .required (.required (.required (.required (.required ?_ hd rfl rfl) hd rfl rfl) hd rfl
        packaging.read_toJson) hd rfl (int64_eq_ok timeout)) hd rfl (int64_eq_ok memorySize)
      exact reads_nothing _ _
    · exact bindings_text_eq_ok environment
    · exact list_text_eq_ok architectures
    · exact scaling.read_toJson
    · exact list_eq_ok fun event _ => event.read_toJson

theorem Compilation.read_toJson (compilation : Compilation) :
    Compilation.read compilation.toJson = .ok compilation := by
  obtain ⟨functions, resources, warnings⟩ := compilation
  refine record_eq_ok (by simp [Entries.Distinct, Entries.keys]) fun hd => ?_
  refine .optional (.optional (.optional (reads_nothing _ _) hd rfl ?_) hd rfl ?_) hd rfl ?_
  · exact list_eq_ok fun function _ => function.read_toJson
  · exact resources.read_toJson
  · exact list_text_eq_ok warnings

/-! ### What has the same JSON is the same -/

/-- Different functions are written differently. -/
theorem FunctionSpec.toJson_injective : Function.Injective FunctionSpec.toJson :=
  write_injective FunctionSpec.read_toJson

theorem ResourceSpecs.toJson_injective : Function.Injective ResourceSpecs.toJson :=
  write_injective ResourceSpecs.read_toJson

end SamTemplate
