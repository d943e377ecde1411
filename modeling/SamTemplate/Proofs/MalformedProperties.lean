import SamTemplate.Proofs.Isolation
import SamTemplate.Proofs.TextShapes

/-!
# Malformed properties

Some properties of tables and buckets are read as values of types of their own, from lists of
records down to single numbers. Whatever is wrong inside of such a property, however deep, it is
one reading that fails: the field that it is read into stays empty, a notice names the property
and the resource, and all other fields are read from their own properties.

* `TypedProperty`: a property with its type, as a view on a field of what is read;
* `Backing.read_tells`: a resource is read property by property;
* `Backing.failure_contained`: what a property costs, and what is told of it.
-/

namespace SamTemplate

open Collecting Node

/-- Why there is no value, if there is none. -/
def Misfit.of? {α : Type} : Except Misfit α → Option Misfit
  | .ok _ => none
  | .error misfit => some misfit

/-! ### Properties with types of their own -/

/-- A property of a resource that is read as a value of its own type, and the field of what is
    read that this value is written to. -/
structure TypedProperty (σ : Type) where
  /-- What the property is under. -/
  key : String
  /-- The type of its values. -/
  Value : Type
  /-- How a value is read. -/
  read : Reader Value
  /-- The value that stands for none. -/
  empty : Value
  /-- The value in a resource. -/
  get : σ → Value
  /-- The resource with another value. -/
  set : σ → Value → σ

namespace TypedProperty

variable {σ : Type}

/-- A property with a list, which is empty if it is not given. -/
def ofList {α : Type} (key : String) (read : Reader α) (get : σ → List α)
    (set : σ → List α → σ) : TypedProperty σ :=
  ⟨key, List α, .list read, [], get, set⟩

/-- A property with a record, which is absent if it is not given. -/
def ofRecord {α : Type} (key : String) (read : Reader α) (get : σ → Option α)
    (set : σ → Option α → σ) : TypedProperty σ :=
  ⟨key, Option α, fun json => (read json).map some, none, get, set⟩

variable (property : TypedProperty σ)

/-- What reading the property gives, if it is given. -/
def reading? (properties : Entries Node) : Option (Except Misfit property.Value) :=
  (given? properties property.key).map fun node => property.read node.toJson

/-- The value of the property, empty if there is none that can be read. -/
def value (properties : Entries Node) : property.Value :=
  ((property.reading? properties).bind Except.toOption).getD property.empty

/-- Why the property cannot be read, if it is given and cannot. -/
def misfit? (properties : Entries Node) : Option Misfit :=
  (property.reading? properties).bind Misfit.of?

/-- The message that the property of a resource cannot be read. -/
def failure (owner logicalId : String) (misfit : Misfit) : String :=
  (Notice.malformedProperty property.key owner logicalId misfit.message).message

/-- A message names the property and the resource. -/
def names (owner logicalId message : String) : Bool :=
  ("failed to decode " ++ property.key ++ " for " ++ owner ++ " " ++ logicalId ++ ": ").toList
    |>.isPrefixOf message.toList

end TypedProperty

/-- The resources that have such properties. -/
inductive Backing where
  /-- Tables. -/
  | table
  /-- Buckets. -/
  | bucket
  deriving DecidableEq, Repr

namespace Backing

/-- What is read from a resource. -/
abbrev Spec : Backing → Type
  | table => TableSpec
  | bucket => BucketSpec

/-- What messages call a resource. -/
def owner : Backing → String
  | table => "DynamoDB table"
  | bucket => "S3 bucket"

/-- The key of a table. -/
def keySchema : TypedProperty TableSpec :=
  .ofList "KeySchema" KeyElement.read (·.keySchema)
    fun spec value => { spec with keySchema := value }

/-- The attributes of a table. -/
def attributeDefinitions : TypedProperty TableSpec :=
  .ofList "AttributeDefinitions" AttributeDefinition.read (·.attributeDefinitions)
    fun spec value => { spec with attributeDefinitions := value }

/-- The indexes of a table. -/
def globalSecondaryIndexes : TypedProperty TableSpec :=
  .ofList "GlobalSecondaryIndexes" SecondaryIndex.read (·.globalSecondaryIndexes)
    fun spec value => { spec with globalSecondaryIndexes := value }

/-- The capacity reserved for a table. -/
def provisionedThroughput : TypedProperty TableSpec :=
  .ofRecord "ProvisionedThroughput" Throughput.read (·.provisionedThroughput)
    fun spec value => { spec with provisionedThroughput := value }

/-- What happens to the objects of a bucket. -/
def lifecycleConfiguration : TypedProperty BucketSpec :=
  .ofRecord "LifecycleConfiguration" Lifecycle.read (·.lifecycleConfiguration)
    fun spec value => { spec with lifecycleConfiguration := value }

/-- The properties that are read as values of their own types, in the order of reading. -/
def typed : (backing : Backing) → List (TypedProperty backing.Spec)
  | table =>
    [keySchema, attributeDefinitions, globalSecondaryIndexes, provisionedThroughput]
  | bucket => [lifecycleConfiguration]

/-- Reads a resource from what is given as its properties; anything but a mapping gives none. -/
def read : (backing : Backing) → String → Node → Collecting backing.Spec
  | table, logicalId, given => tableSpec logicalId (given.entries?.getD [])
  | bucket, logicalId, given => bucketSpec logicalId (given.entries?.getD [])

end Backing

/-! ### Reading one property -/

section

variable {α σ : Type} {owner logicalId : String} {properties : Entries Node}

theorem readProperty_tells_of (read : Reader α) (owner logicalId key : String)
    (properties : Entries Node) :
    Tells (readProperty read owner logicalId properties key)
      (((given? properties key).map fun node => read node.toJson).bind Except.toOption)
      ((((given? properties key).map fun node => read node.toJson).bind Misfit.of?).map
        fun misfit =>
          (Notice.malformedProperty key owner logicalId misfit.message).message).toList := by
  unfold readProperty
  cases given? properties key with
  | none => exact .pure _
  | some node =>
    dsimp only [Option.map_some, Option.bind_some]
    cases read node.toJson with
    | ok value => exact .pure _
    | error misfit => exact (Tells.note _).bind (.pure _)

namespace TypedProperty

/-- What is told when a property is read. -/
def told (property : TypedProperty σ) (owner logicalId : String) (properties : Entries Node) :
    List String :=
  ((property.misfit? properties).map (property.failure owner logicalId)).toList

theorem ofRecord_tells (key : String) (read : Reader α) (get : σ → Option α)
    (set : σ → Option α → σ) :
    Tells (readProperty read owner logicalId properties key)
      ((ofRecord key read get set).value properties)
      ((ofRecord key read get set).told owner logicalId properties) := by
  have h := readProperty_tells_of read owner logicalId key properties
  unfold told value misfit? reading? ofRecord
  cases hgiven : given? properties key with
  | none => rwa [hgiven] at h
  | some node =>
    rw [hgiven] at h
    simp only [Option.map_some, Option.bind_some] at h ⊢
    cases hread : read node.toJson <;> rwa [hread] at h

end TypedProperty

end

/-! ### Reading a resource -/

namespace Backing

/-- What is read from a resource, field by field. -/
def specOf : (backing : Backing) → String → Entries Node → backing.Spec
  | table, logicalId, properties => {
    tableName := textUnder properties "TableName" logicalId
    keySchema := keySchema.value properties
    attributeDefinitions := attributeDefinitions.value properties
    globalSecondaryIndexes := globalSecondaryIndexes.value properties
    billingMode := textUnder properties "BillingMode" defaultBillingMode
    provisionedThroughput := provisionedThroughput.value properties }
  | bucket, logicalId, properties => {
    bucketName := textUnder properties "BucketName" (lowerCase logicalId)
    lifecycleConfiguration := lifecycleConfiguration.value properties }

variable {backing : Backing} {property : TypedProperty backing.Spec} {logicalId : String}
  {properties properties' : Entries Node}

/-- A resource is read property by property, and each property tells for itself. -/
theorem read_tells (backing : Backing) (logicalId : String) (given : Node) :
    Tells (backing.read logicalId given) (backing.specOf logicalId (given.entries?.getD []))
      (backing.typed.flatMap
        (·.told backing.owner logicalId (given.entries?.getD []))) := by
  generalize hp : given.entries?.getD [] = properties
  cases backing with
  | table =>
    rw [read, hp, tableSpec]
    have hlist {α : Type} (read : Reader α) (key : String) :=
      readProperty_tells_of (.list read) "DynamoDB table" logicalId key properties
    exact (hlist _ _).bind <| (hlist _ _).bind <| (hlist _ _).bind <|
      Tells.bind (TypedProperty.ofRecord_tells _ Throughput.read _ _) (.pure _)
  | bucket =>
    rw [read, hp, bucketSpec]
    exact Tells.bind (TypedProperty.ofRecord_tells _ Lifecycle.read _ _) (.pure _)

theorem get_specOf (h : property ∈ backing.typed) :
    property.get (backing.specOf logicalId properties) = property.value properties := by
  cases backing with
  | table =>
    simp only [typed, List.mem_cons, List.not_mem_nil, or_false] at h
    rcases h with rfl | rfl | rfl | rfl <;> rfl
  | bucket =>
    obtain rfl := List.mem_singleton.1 h
    rfl

/-- All fields but one are read from other properties. -/
theorem set_specOf (h : property ∈ backing.typed)
    (hagree : ∀ key, key ≠ property.key → properties.get? key = properties'.get? key)
    (value : property.Value) :
    property.set (backing.specOf logicalId properties) value
      = property.set (backing.specOf logicalId properties') value := by
  have hgiven (key : String) (hkey : key ≠ property.key) :
      given? properties key = given? properties' key := by
    rw [given?, given?, hagree key hkey]
  have htext (key fallback : String) (hkey : key ≠ property.key) :
      textUnder properties key fallback = textUnder properties' key fallback := by
    rw [textUnder, textUnder, hgiven key hkey]
  have hvalue (other : TypedProperty backing.Spec) (hkey : other.key ≠ property.key) :
      other.value properties = other.value properties' := by
    rw [TypedProperty.value, TypedProperty.value, TypedProperty.reading?,
      TypedProperty.reading?, hgiven _ hkey]
  cases backing with
  | table =>
    simp only [typed, List.mem_cons, List.not_mem_nil, or_false] at h
    rw [specOf, specOf]
    -- The value of the property itself is overwritten.
    rcases h with rfl | rfl | rfl | rfl <;>
      · simp (disch := decide) only [htext, hvalue]
        rfl
  | bucket =>
    obtain rfl := List.mem_singleton.1 h
    rw [specOf, specOf, htext _ _ (by decide)]
    rfl

end Backing

/-! ### What is told of a resource -/

/-- Of messages that differ each is recorded. -/
theorem Warnings.messages_addAll {messages : List String} (warnings : Warnings)
    (hd : (warnings.messages ++ messages).Nodup) :
    (warnings.addAll messages).messages = warnings.messages ++ messages := by
  induction messages generalizing warnings with
  | nil => exact (List.append_nil _).symm
  | cons first rest ih =>
    have hfirst : first ∉ warnings.messages := fun hmem =>
      (List.nodup_append.1 hd).2.2 first hmem first List.mem_cons_self rfl
    have hadd : (warnings.add first).messages = warnings.messages ++ [first] := by
      rw [add, dif_neg hfirst]
    change ((warnings.add first).addAll rest).messages = _
    rw [ih _ (by simpa [hadd] using hd), hadd, List.append_assoc, List.singleton_append]

namespace TypedProperty

variable {σ : Type} {property other : TypedProperty σ}

/-- The words before the cause tell which property it is, as no key has a blank in it. -/
theorem names_failure_iff (hb : ' ' ∉ property.key.toList) (hb' : ' ' ∉ other.key.toList)
    (owner logicalId : String) (misfit : Misfit) :
    property.names owner logicalId (other.failure owner logicalId misfit) = true
      ↔ property.key = other.key := by
  unfold names failure Notice.message
  dsimp only
  constructor
  · intro h
    obtain ⟨rest, hrest⟩ := List.isPrefixOf_iff_prefix.1 h
    have hfor : " for ".toList = ' ' :: "for ".toList := rfl
    simp only [String.toList_append, List.append_assoc, List.append_cancel_left_eq, hfor,
      List.cons_append] at hrest
    have hkeys := congrArg (List.takeWhile (· ≠ ' ')) hrest
    rw [takeWhile_append_cons hb, takeWhile_append_cons hb'] at hkeys
    exact String.toList_inj.1 hkeys
  · intro hkey
    rw [hkey]
    exact List.isPrefixOf_iff_prefix.2 ⟨misfit.message.toList, String.toList_append.symm⟩

end TypedProperty

namespace Backing

variable {backing : Backing} {property other : TypedProperty backing.Spec}

theorem blank_notMem_key (h : property ∈ backing.typed) : ' ' ∉ property.key.toList := by
  cases backing with
  | table =>
    simp only [typed, List.mem_cons, List.not_mem_nil, or_false] at h
    rcases h with rfl | rfl | rfl | rfl <;> decide
  | bucket =>
    obtain rfl := List.mem_singleton.1 h
    decide

/-- No two properties of a resource are under one key. -/
theorem pairwise_key_ne (backing : Backing) : backing.typed.Pairwise (·.key ≠ ·.key) := by
  cases backing <;> decide

/-- What is told of a resource. -/
def told (backing : Backing) (logicalId : String) (properties : Entries Node) : List String :=
  backing.typed.flatMap (·.told backing.owner logicalId properties)

theorem told_eq_filterMap (backing : Backing) (logicalId : String) (properties : Entries Node) :
    backing.told logicalId properties = backing.typed.filterMap fun property =>
      (property.misfit? properties).map (property.failure backing.owner logicalId) :=
  (List.filterMap_eq_flatMap_toList _ _).symm

theorem told_eq_of_misfit? {logicalId : String} {properties : Entries Node} {misfit : Misfit}
    (h : property.misfit? properties = some misfit) :
    property.told backing.owner logicalId properties
      = [property.failure backing.owner logicalId misfit] := by
  rw [TypedProperty.told, h]
  rfl

theorem names_iff_of_mem {logicalId message : String} {properties : Entries Node}
    (h : property ∈ backing.typed) (h' : other ∈ backing.typed)
    (hmem : message ∈ other.told backing.owner logicalId properties) :
    property.names backing.owner logicalId message = true ↔ property.key = other.key := by
  obtain ⟨misfit, -, rfl⟩ := Option.map_eq_some_iff.1 (Option.mem_toList.1 hmem)
  exact TypedProperty.names_failure_iff (blank_notMem_key h) (blank_notMem_key h') _ _ _

/-- The messages that name a property are those that are told when it is read. -/
theorem filter_told (h : property ∈ backing.typed) (logicalId : String)
    (properties : Entries Node) :
    (backing.told logicalId properties).filter (property.names backing.owner logicalId)
      = property.told backing.owner logicalId properties := by
  have hfilter (others : List (TypedProperty backing.Spec)) (hmem : others ⊆ backing.typed) :
      (others.flatMap (·.told backing.owner logicalId properties)).filter
          (property.names backing.owner logicalId)
        = (others.filter fun other => decide (property.key = other.key)).flatMap
            (·.told backing.owner logicalId properties) := by
    induction others with
    | nil => rfl
    | cons other rest ih =>
      obtain ⟨hother, hrest⟩ := List.cons_subset.1 hmem
      have hnames (message : String)
          (hm : message ∈ other.told backing.owner logicalId properties) :
          property.names backing.owner logicalId message = true ↔ property.key = other.key :=
        names_iff_of_mem h hother hm
      rw [List.flatMap_cons, List.filter_append, ih hrest, List.filter_cons]
      split_ifs with hkey
      · rw [List.filter_eq_self.2 fun _ hm => (hnames _ hm).2 (of_decide_eq_true hkey),
          List.flatMap_cons]
      · rw [List.filter_eq_nil_iff.2 fun _ hm hn => hkey (decide_eq_true ((hnames _ hm).1 hn)),
          List.nil_append]
  have hown : backing.typed.filter (fun other => decide (property.key = other.key))
      = [property] := by
    cases backing with
    | table =>
      simp only [typed, List.mem_cons, List.not_mem_nil, or_false] at h
      rcases h with rfl | rfl | rfl | rfl <;> rfl
    | bucket =>
      obtain rfl := List.mem_singleton.1 h
      rfl
  rw [told, hfilter _ (List.Subset.refl _), hown, List.flatMap_singleton]

theorem nodup_told (backing : Backing) (logicalId : String) (properties : Entries Node) :
    (backing.told logicalId properties).Nodup := by
  refine List.nodup_flatMap.2 ⟨fun property _ => ?_, ?_⟩
  · unfold TypedProperty.told
    cases property.misfit? properties <;> simp
  · refine backing.pairwise_key_ne.imp_of_mem fun {a b} ha hb hne message hmem hmem' => ?_
    exact hne ((names_iff_of_mem ha hb hmem').1 ((names_iff_of_mem ha ha hmem).2 rfl))

end Backing

/-! ### What a property costs -/

theorem Node.given?_entries (given : Node) (key : String) :
    given? (given.entries?.getD []) key = given.field? key := by
  cases given <;> rfl

theorem Node.get?_entries (given : Node) (key : String) :
    Entries.get? key (given.entries?.getD []) = given.get? key := by
  cases given <;> rfl

/-- A field is not given if it is absent or `null`. -/
theorem Node.field?_eq_none_iff {given : Node} {key : String} :
    given.field? key = none ↔ given.get? key = none ∨ given.get? key = some .null := by
  rw [field?_eq_filter]
  cases given.get? key with
  | none => simp
  | some node => cases node <;> simp [Option.filter_some, isNull]

namespace TypedProperty

variable {σ : Type} {property : TypedProperty σ} {given : Node} {owner logicalId : String}

theorem value_and_misfit?_of_field? {node : Node} (h : given.field? property.key = some node) :
    property.value (given.entries?.getD [])
        = (property.read node.toJson).toOption.getD property.empty ∧
      property.misfit? (given.entries?.getD []) = Misfit.of? (property.read node.toJson) := by
  unfold value misfit? reading?
  rw [given?_entries, h]
  exact ⟨rfl, rfl⟩

/-- Nothing is read and nothing is told in three cases. -/
theorem value_eq_empty_iff :
    (property.value (given.entries?.getD []) = property.empty ∧
        property.told owner logicalId (given.entries?.getD []) = []) ↔
      given.get? property.key = none ∨ given.get? property.key = some .null ∨
        ∃ node, given.get? property.key = some node ∧
          property.read node.toJson = .ok property.empty := by
  rw [← or_assoc, ← field?_eq_none_iff]
  cases hfield : given.field? property.key with
  | none => simp [value, told, misfit?, reading?, given?_entries, hfield]
  | some node =>
    obtain ⟨hvalue, hmisfit⟩ := value_and_misfit?_of_field? hfield
    rw [hvalue, told, hmisfit, get?_of_field? hfield]
    cases hread : property.read node.toJson <;> simp [Except.toOption, Misfit.of?, hread]

end TypedProperty

namespace Backing

/-- A property that cannot be read costs only itself. Whatever is given under its key, all other
    fields of what is read are the same. Its own field is what it is read as if it can be read;
    the field is empty and nothing is told of it if the property is absent, `null` or read as
    empty; and if it cannot be read, the field is empty and one message names the property and
    the resource. So as many messages are made as there are properties that cannot be read. -/
theorem failure_contained (backing : Backing) (logicalId : String) :
    (∀ property ∈ backing.typed, ∀ given given' : Node,
      (∀ key, key ≠ property.key → given.get? key = given'.get? key) → ∀ warnings warnings',
        property.set ((backing.read logicalId given).run warnings).1 property.empty
          = property.set ((backing.read logicalId given').run warnings').1 property.empty) ∧
    ∀ given : Node, ∃ spec messages,
      (∀ warnings,
        (backing.read logicalId given).run warnings = (spec, warnings.addAll messages)) ∧
      ((backing.read logicalId given).run .empty).2.messages = messages ∧
      messages.length
        = backing.typed.countP (fun property =>
            (property.misfit? (given.entries?.getD [])).isSome) ∧
      ∀ property ∈ backing.typed,
        (∀ node value, given.field? property.key = some node →
          property.read node.toJson = .ok value → property.get spec = value) ∧
        ((property.get spec = property.empty ∧
            messages.filter (property.names backing.owner logicalId) = []) ↔
          given.get? property.key = none ∨ given.get? property.key = some .null ∨
            ∃ node, given.get? property.key = some node ∧
              property.read node.toJson = .ok property.empty) ∧
        ∀ node misfit, given.field? property.key = some node →
          property.read node.toJson = .error misfit →
          property.get spec = property.empty ∧
            messages.filter (property.names backing.owner logicalId)
              = [property.failure backing.owner logicalId misfit] := by
  refine ⟨fun property h given given' hagree warnings warnings' => ?_, fun given =>
    ⟨_, _, read_tells backing logicalId given, ?_, ?_, fun property h => ?_⟩⟩
  · rw [read_tells backing logicalId given warnings, read_tells backing logicalId given' warnings']
    refine set_specOf h (fun key hkey => ?_) _
    rw [get?_entries, get?_entries, hagree key hkey]
  · rw [read_tells backing logicalId given .empty]
    exact Warnings.messages_addAll .empty (backing.nodup_told logicalId _)
  · rw [← told, told_eq_filterMap, List.length_filterMap_eq_countP]
    simp only [Option.isSome_map]
  · rw [← told, filter_told h, get_specOf h]
    refine ⟨fun node value hnode hread => ?_, TypedProperty.value_eq_empty_iff,
      fun node misfit hnode hread => ?_⟩
    · rw [(TypedProperty.value_and_misfit?_of_field? hnode).1, hread]
      rfl
    · obtain ⟨hvalue, hmisfit⟩ := TypedProperty.value_and_misfit?_of_field? hnode
      rw [hread] at hvalue hmisfit
      exact ⟨hvalue, told_eq_of_misfit? hmisfit⟩

/-- A table with this key, and an index with a capacity that is a word. -/
def nested (schema : Node) : Node :=
  .map [("TableName", .str "orders"),
    ("KeySchema", schema),
    ("GlobalSecondaryIndexes", .seq [.map [("IndexName", .str "by-user"),
      ("ProvisionedThroughput", .map [("ReadCapacityUnits", .str "lots"),
        ("WriteCapacityUnits", .int 1)])]]),
    ("ProvisionedThroughput", .map [("ReadCapacityUnits", .str " 5 "),
      ("WriteCapacityUnits", .int 10)])]

theorem get?_nested {key : String} {schema schema' : Node} (hne : "KeySchema" ≠ key) :
    (nested schema).get? key = (nested schema').get? key := by
  rw [nested, nested]
  change Entries.get? key _ = Entries.get? key _
  rw [Entries.get?_cons, Entries.get?_cons, if_neg hne, eq_comm, Entries.get?_cons,
    Entries.get?_cons, if_neg hne]

/-- A key that lacks a type. -/
def typeless : Node := .seq [.map [("AttributeName", .str "id")]]

/-- The two lists are empty, the capacity of the table is read, and there are two messages. Without
    the key all but the key is the same. -/
theorem failure_contained_nested :
    ((read .table "Orders" (nested typeless)).run .empty).2.messages.length = 2 ∧
      ((read .table "Orders" (nested typeless)).run .empty).1
        = (⟨"orders", [], [], [], "PROVISIONED", some ⟨5, 10⟩⟩ : TableSpec) ∧
      keySchema.set ((read .table "Orders" (nested typeless)).run .empty).1 []
        = keySchema.set ((read .table "Orders" (nested .null)).run .empty).1 [] := by
  have hagree (key : String) (hkey : key ≠ keySchema.key) :
      (nested typeless).get? key = (nested .null).get? key := get?_nested hkey.symm
  obtain ⟨hcontained, htold⟩ := failure_contained .table "Orders"
  obtain ⟨spec, messages, -, hmessages, hlength, -⟩ := htold (nested typeless)
  refine ⟨?_, by decide, hcontained keySchema (by simp [typed]) _ _ hagree .empty .empty⟩
  rw [hmessages, hlength]
  decide

end Backing

end SamTemplate
