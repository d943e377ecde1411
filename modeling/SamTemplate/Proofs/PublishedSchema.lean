import SamTemplate.Proofs.Collected
import SamTemplate.Proofs.DocumentOrder
import SamTemplate.Proofs.SchemaValidation

/-!
# Published schemas

A schema admits values by what it says, with no regard to how it is published
(`Schema.admits`); in a document the names stand for its definitions
(`SchemaDocument.named`). Both are published so that validation finds the same.

* `Schema.validate_toJson`: a published schema finds what the schema admits;
* `SchemaDocument.validateWithin_toJson`: so does a published document, to any depth;
* `SchemaDocument.exists_target?_of_mem`: every reference in a published document leads to
  a definition.
-/

namespace SamTemplate

namespace Schema

open Json Verdict

/-! ### What a schema admits -/

mutual

/-- What a schema finds about a value; `named` is what the schema of a name finds. -/
def admits (named : String → Json → Verdict) : Schema → Json → Verdict
  | .text, value => some (value.isOfSort "string")
  | .word expected, value => some (value.text? = some expected)
  | .truth, value => some (value.isOfSort "boolean")
  | .whole, value => some (value.hasFormat "int64" && value.isOfSort "integer")
  | .nullable _, .null => some true
  | .nullable schema, value => schema.admits named value
  | .listOf element, .arr elements => .all (elements.map fun value => element.admits named value)
  | .listOf _, _ => some false
  | .mapOf schema, .obj members => .all (members.map fun member => schema.admits named member.2)
  | .mapOf _, _ => some false
  | .named name, value => named name value
  | .record fields required, .obj members =>
    .all [.all (admitsProperties named fields members),
      some (required.all fun name => name ∈ Entries.keys members)]
  | .record _ _, _ => some false
  | .oneOf schemas, value => .exactlyOne (admitsEach named schemas value)
  | .described _ schema, value => schema.admits named value
  | .defaulting _ schema, value => schema.admits named value

/-- What the schemas of fields find about the members of an object. -/
def admitsProperties (named : String → Json → Verdict) :
    List (String × Schema) → Entries Json → List Verdict
  | [], _ => []
  | field :: rest, members =>
    admitsProperty named field members :: admitsProperties named rest members

/-- What the schema of a field finds about the members of an object, which may lack it. -/
def admitsProperty (named : String → Json → Verdict) :
    String × Schema → Entries Json → Verdict
  | (name, schema), members =>
    match Entries.get? name members with
    | some value => schema.admits named value
    | none => some true

/-- What schemas find about a value, one by one. -/
def admitsEach (named : String → Json → Verdict) : List Schema → Json → List Verdict
  | [], _ => []
  | schema :: rest, value => schema.admits named value :: admitsEach named rest value

end

/-- Neither a single word nor an annotated schema, nor one that admits `null` already: what
    is published for such a schema together with `null` admits just one value more. -/
def isBare : Schema → Bool
  | .word .. | .nullable .. | .described .. | .defaulting .. => false
  | _ => true

/-- A name without the characters that have a meaning in pointers. -/
def isPlain (name : String) : Bool := name.toList.all fun c => c ≠ '/' && c ≠ '~'

mutual

/-- No field occurs twice in a record, `null` is added to bare schemas only, and names are
    plain. -/
def wellFormed : Schema → Bool
  | .named name => isPlain name
  | .nullable schema => schema.isBare && schema.wellFormed
  | .listOf schema | .mapOf schema | .described _ schema | .defaulting _ schema => schema.wellFormed
  | .record fields _ => decide (Entries.Distinct fields) && wellFormedProperties fields
  | .oneOf schemas => wellFormedEach schemas
  | _ => true

/-- So it is in the schemas of fields. -/
def wellFormedProperties : List (String × Schema) → Bool
  | [] => true
  | (_, schema) :: rest => schema.wellFormed && wellFormedProperties rest

/-- So it is in each schema. -/
def wellFormedEach : List Schema → Bool
  | [] => true
  | schema :: rest => schema.wellFormed && wellFormedEach rest

end

theorem wellFormed_of_mem {fields : List (String × Schema)} (h : wellFormedProperties fields)
    {field : String × Schema} (hmem : field ∈ fields) : field.2.wellFormed := by
  induction fields with
  | nil => exact nomatch hmem
  | cons first rest ih =>
    obtain ⟨hfirst, hrest⟩ := Bool.and_eq_true_iff.1 h
    rcases List.mem_cons.1 hmem with rfl | hmem
    · exact hfirst
    · exact ih hrest hmem

variable {follow : String → Json → Verdict} {value : Json} {members : Entries Json}

/-! ### Publication -/

/-- A note on a schema changes nothing about what it admits. -/
theorem validate_annotate {name : String} (h : name ∈ annotations) (argument : Json) :
    validate follow (.obj (annotate name argument members)) value
      = validate follow (.obj members) value := by
  unfold annotate
  split
  · rename_i target
    have hnone : Entries.get? "$ref" (Entries.insertSorted name argument
        [("allOf", .arr [.obj [("$ref", target)]])]) = none := by
      rw [Entries.get?_insertSorted, if_neg (by rintro rfl; exact absurd h (by decide))]
      rfl
    rw [validate_insertSorted h, validate_of_no_ref rfl]
    exact (Verdict.all_singleton).trans Verdict.all_singleton
  · exact validate_insertSorted h argument

theorem mem_inOrder {names : List String} {name : String} :
    name ∈ inOrder names ↔ name ∈ names := by
  have hinsert (bindings : Bindings Unit) :
      name ∈ Entries.keys (bindings.insertAll (names.map fun name => (name, ()))).entries
        ↔ name ∈ names ∨ name ∈ Entries.keys bindings.entries := by
    induction names generalizing bindings with
    | nil => simp [Bindings.insertAll]
    | cons first rest ih =>
      rw [List.map_cons, Bindings.insertAll, List.foldl_cons]
      refine (ih _).trans ?_
      rw [Bindings.insert, Entries.mem_keys_insertSorted, List.mem_cons]
      tauto
  exact (hinsert .empty).trans (or_iff_left List.not_mem_nil)

/-- The members of a record are published under the names of its fields. -/
theorem mem_propertyMembers {fields : List (String × Schema)} (hd : Entries.Distinct fields)
    {member : String × Json} :
    member ∈ propertyMembers fields
      ↔ ∃ field ∈ fields, (field.1, field.2.toJson) = member := by
  induction fields with
  | nil => simp [propertyMembers]
  | cons field rest ih =>
    obtain ⟨hname, hrest⟩ := List.nodup_cons.1 hd
    rw [propertyMembers]
    constructor
    · intro hmem
      rcases Entries.mem_insertSorted hmem with rfl | hmem
      · exact ⟨field, List.mem_cons_self, rfl⟩
      · obtain ⟨other, hother, rfl⟩ := (ih hrest).1 hmem
        exact ⟨other, List.mem_cons_of_mem _ hother, rfl⟩
    · rintro ⟨other, hother, rfl⟩
      rcases List.mem_cons.1 hother with rfl | hother
      · exact Entries.mem_insertSorted_self
      · have hne : other.1 ≠ field.1 := by
          rintro hsame
          exact hname (List.mem_map.2 ⟨other, hother, hsame⟩)
        exact Entries.mem_insertSorted_of_ne hne ((ih hrest).2 ⟨other, hother, rfl⟩)

section

variable {named : String → Json → Verdict} {schema : Schema}

theorem admits_nullable_of_ne (h : value ≠ .null) :
    (nullable schema).admits named value = schema.admits named value := by
  cases value with
  | null => exact absurd rfl h
  | _ => rw [admits]; simp

/-- To a schema of one sort of values `null` is added as another sort. -/
theorem validate_nullable_of_type {front : Entries Json} {sort : String}
    (hmembers : schema.members = front ++ [("type", .str sort)])
    (htype : "type" ∉ Entries.keys front) (href : "$ref" ∉ Entries.keys front)
    (hnull : ∀ known, ∀ member ∈ front, keyword follow known member .null = some true)
    (ih : validate follow schema.toJson value = schema.admits named value) :
    validate follow (nullable schema).toJson value = (nullable schema).admits named value := by
  have hpublished : (nullable schema).toJson
      = .obj (front ++ [("type", .arr [.str sort, .str "null"])]) := by
    rw [toJson, Schema.members, hmembers, admitNull, Entries.get?_concat_self htype]
    exact congrArg _ (Entries.put_concat_self htype)
  have hno (argument : Json) : Entries.get? "$ref" (front ++ [("type", argument)]) = none := by
    rw [Entries.get?_concat_of_ne (by decide), Entries.get?_eq_none_iff.2 href]
  rw [hpublished, validate_of_no_ref (hno _), List.map_append, List.map_singleton,
    keyword_type_or_null]
  by_cases hvalue : value = .null
  · subst hvalue
    rw [admits]
    refine all_eq_true_iff.2 fun verdict hmem => ?_
    rcases List.mem_append.1 hmem with hmem | hmem
    · obtain ⟨member, hmember, rfl⟩ := List.mem_map.1 hmem
      exact hnull _ member hmember
    · rw [List.mem_singleton.1 hmem]
      simp [isOfSort]
  · rw [admits_nullable_of_ne hvalue, ← ih, toJson, hmembers, validate_of_no_ref (hno _),
      List.map_append, List.map_singleton, keyword_type, isOfSort_null_of_ne hvalue, Bool.or_false,
      propertyNames, propertyNames, Entries.get?_concat_of_ne (by decide),
      Entries.get?_concat_of_ne (by decide)]

/-- To a schema of no one sort `null` is added as an alternative. -/
theorem validate_nullable_of_no_type (htype : Entries.get? "type" schema.members = none)
    (ih : validate follow schema.toJson value = schema.admits named value) :
    validate follow (nullable schema).toJson value = (nullable schema).admits named value := by
  have hpublished : (nullable schema).toJson
      = .obj [("anyOf", .arr [schema.toJson, .obj [("type", .str "null")]])] := by
    rw [toJson, Schema.members, admitNull, htype, toJson]
  have hnull : validate follow (.obj [("type", .str "null")]) value
      = some (value.isOfSort "null") := by
    rw [validate_of_no_ref rfl, List.map_singleton, keyword_type, all_singleton]
  have hany : validate follow (nullable schema).toJson value
      = any [schema.admits named value, some (value.isOfSort "null")] := by
    rw [hpublished, validate_of_no_ref rfl, List.map_singleton, all_singleton, ← ih, ← hnull]
    rfl
  rw [hany]
  by_cases hvalue : value = .null
  · subst hvalue
    rw [admits]
    exact any_pair_true
  · rw [admits_nullable_of_ne hvalue, isOfSort_null_of_ne hvalue, any_pair_false]

/-- What is published for a schema together with `null`, if the schema is bare. -/
theorem validate_nullable (hbare : schema.isBare)
    (ih : validate follow schema.toJson value = schema.admits named value) :
    validate follow (nullable schema).toJson value = (nullable schema).admits named value := by
  have hempty (name : String) : name ∉ Entries.keys ([] : Entries Json) := List.not_mem_nil
  cases schema with
  | text | truth =>
    exact validate_nullable_of_type rfl (hempty _) (hempty _)
      (fun _ _ h => absurd h List.not_mem_nil) ih
  | whole | listOf | mapOf =>
    refine validate_nullable_of_type (List.singleton_append.symm) (by simp [Entries.keys])
      (by simp [Entries.keys]) (fun known member h => ?_) ih
    rw [List.mem_singleton.1 h]
    rfl
  | record properties required =>
    refine validate_nullable_of_type rfl ?_ ?_ (fun known member h => ?_) ih
    · cases required <;> simp [Entries.keys]
    · cases required <;> simp [Entries.keys]
    · rcases List.mem_cons.1 h with rfl | h
      · rfl
      · split at h
        · exact absurd h List.not_mem_nil
        · rw [List.mem_singleton.1 h]
          rfl
  | named | oneOf => exact validate_nullable_of_no_type rfl ih
  | word | nullable | described | defaulting => exact absurd hbare Bool.false_ne_true

theorem validate_word {expected : String} :
    validate follow (word expected).toJson value = (word expected).admits named value := by
  have hpublished : validate follow (word expected).toJson value
      = all [keyword follow [] ("enum", .arr [.str expected]) value,
          keyword follow [] ("type", .str "string") value] := validate_of_no_ref rfl
  have henum : keyword follow [] ("enum", .arr [.str expected]) value
      = some (decide (value.text? = some expected)) := by
    change some (_ || false) = _
    rw [Bool.or_false]
  rw [hpublished, henum, keyword_type, all_some_pair, admits]
  cases value <;> simp [text?, isOfSort]

theorem validate_whole :
    validate follow whole.toJson value = whole.admits named value := by
  have hpublished : validate follow whole.toJson value
      = all [keyword follow [] ("format", .str "int64") value,
          keyword follow [] ("type", .str "integer") value] := validate_of_no_ref rfl
  rw [hpublished, keyword_type, admits]
  exact all_some_pair

/-- A list is admitted if its elements are. -/
theorem validate_listOf
    (ih : ∀ value, validate follow schema.toJson value = schema.admits named value) :
    validate follow (listOf schema).toJson value = (listOf schema).admits named value := by
  have hpublished : validate follow (listOf schema).toJson value
      = all [keyword follow [] ("items", schema.toJson) value,
          keyword follow [] ("type", .str "array") value] := validate_of_no_ref rfl
  rw [hpublished, keyword_type]
  cases value with
  | arr elements =>
    refine all_pair_true.trans ?_
    rw [admits, ← funext ih]
    rfl
  | _ => exact all_pair_false

/-- A map is admitted if its values are. -/
theorem validate_mapOf
    (ih : ∀ value, validate follow schema.toJson value = schema.admits named value) :
    validate follow (mapOf schema).toJson value = (mapOf schema).admits named value := by
  have hpublished : validate follow (mapOf schema).toJson value
      = all [keyword follow [] ("additionalProperties", schema.toJson) value,
          keyword follow [] ("type", .str "object") value] := validate_of_no_ref rfl
  rw [hpublished, keyword_type]
  cases value with
  | obj members =>
    refine all_pair_true.trans ?_
    have hfilter : members.filter (fun member => member.1 ∉ ([] : List String)) = members := by
      simp
    rw [admits, ← funext ih, keyword_additionalProperties, hfilter]
  | _ => exact all_pair_false

theorem admitsProperties_eq_map {fields : List (String × Schema)} :
    admitsProperties named fields members = fields.map (admitsProperty named · members) := by
  induction fields with
  | nil => rfl
  | cons field rest ih => rw [admitsProperties, ih, List.map_cons]

theorem all_properties_propertyMembers {fields : List (String × Schema)}
    (hd : Entries.Distinct fields)
    (ih : ∀ field ∈ fields, ∀ value,
      validate follow field.2.toJson value = field.2.admits named value) :
    all (properties follow (propertyMembers fields) members)
      = all (admitsProperties named fields members) := by
  have hfield (field) (hmem : field ∈ fields) :
      property follow (field.1, field.2.toJson) members = admitsProperty named field members := by
    rw [property, admitsProperty]
    cases Entries.get? field.1 members with
    | none => rfl
    | some value => exact ih field hmem value
  refine all_eq_of_mem_iff fun verdict _ => ?_
  rw [properties_eq_map, admitsProperties_eq_map, List.mem_map, List.mem_map]
  constructor
  · rintro ⟨member, hmem, rfl⟩
    obtain ⟨field, hfmem, rfl⟩ := (mem_propertyMembers hd).1 hmem
    exact ⟨field, hfmem, (hfield field hfmem).symm⟩
  · rintro ⟨field, hmem, rfl⟩
    exact ⟨_, (mem_propertyMembers hd).2 ⟨field, hmem, rfl⟩, hfield field hmem⟩

/-- Required fields are published in order, and not at all if there are none. -/
theorem validate_published_record {fields : List (String × Schema)} {required : List String} :
    validate follow (record fields required).toJson value
      = all [keyword follow (Entries.keys (propertyMembers fields))
            ("properties", .obj (propertyMembers fields)) value,
          keyword follow (Entries.keys (propertyMembers fields))
            ("required", .ofTexts (inOrder required)) value,
          keyword follow (Entries.keys (propertyMembers fields))
            ("type", .str "object") value] := by
  cases required with
  | nil =>
    have hrequired : keyword follow (Entries.keys (propertyMembers fields))
        ("required", .ofTexts (inOrder [])) value = some true := by
      cases value <;> rfl
    have hpublished : validate follow (record fields []).toJson value
        = all [keyword follow (Entries.keys (propertyMembers fields))
              ("properties", .obj (propertyMembers fields)) value,
            keyword follow (Entries.keys (propertyMembers fields))
              ("type", .str "object") value] := validate_of_no_ref rfl
    rw [hpublished, hrequired]
    exact all_eq_of_mem_iff fun verdict hv => by simp [hv]
  | cons first rest => exact validate_of_no_ref rfl

/-- A record is admitted if its members are by its fields, and none is missing that is required. -/
theorem validate_record {fields : List (String × Schema)} {required : List String}
    (hd : Entries.Distinct fields)
    (ih : ∀ field ∈ fields, ∀ value,
      validate follow field.2.toJson value = field.2.admits named value) :
    validate follow (record fields required).toJson value
      = (record fields required).admits named value := by
  rw [validate_published_record, keyword_type]
  cases value with
  | obj members =>
    have hrequired : ((inOrder required).all fun name => name ∈ Entries.keys members)
        = required.all fun name => name ∈ Entries.keys members := by
      rw [Bool.eq_iff_iff]
      simp [mem_inOrder]
    rw [keyword_required, hrequired, keyword_properties, admits,
      ← all_properties_propertyMembers hd ih]
    exact all_eq_of_mem_iff fun verdict hv => by simp [isOfSort, hv]
  | _ => exact all_eq_false_of_mem (by simp [isOfSort])

end

/-- References find what the names do that they are published for. -/
def Resolves (follow named : String → Json → Verdict) : Prop :=
  ∀ name, isPlain name → ∀ value, follow ("#/definitions/" ++ name) value = named name value

mutual

/-- A published schema finds what the schema admits, if the references find what the names do. -/
theorem validate_toJson {named : String → Json → Verdict} (hnamed : Resolves follow named) :
    ∀ schema : Schema, schema.wellFormed → ∀ value,
      validate follow schema.toJson value = schema.admits named value
  | .text, _, value | .truth, _, value =>
    (validate_of_no_ref rfl).trans (all_singleton.trans keyword_type)
  | .word expected, _, value => validate_word
  | .whole, _, value => validate_whole
  | .nullable schema, h, value => by
    obtain ⟨hbare, h⟩ := Bool.and_eq_true_iff.1 h
    exact validate_nullable hbare (validate_toJson hnamed schema h value)
  | .listOf element, h, value => validate_listOf (validate_toJson hnamed element h)
  | .mapOf element, h, value => validate_mapOf (validate_toJson hnamed element h)
  | .named name, h, value => (validate_of_ref rfl).trans (hnamed name h value)
  | .record fields required, h, value => by
    obtain ⟨hd, h⟩ := Bool.and_eq_true_iff.1 h
    exact validate_record (of_decide_eq_true hd) (validate_properties hnamed fields h)
  | .oneOf schemas, h, value => by
    refine (validate_of_no_ref rfl).trans (all_singleton.trans ?_)
    exact congrArg exactlyOne (alternatives_alternativeMembers hnamed schemas h value)
  | .described _ schema, h, value =>
    (validate_annotate (by decide) _).trans (validate_toJson hnamed schema h value)
  | .defaulting _ schema, h, value =>
    (validate_annotate (by decide) _).trans (validate_toJson hnamed schema h value)

theorem validate_properties {named : String → Json → Verdict} (hnamed : Resolves follow named) :
    ∀ fields : List (String × Schema), wellFormedProperties fields → ∀ field ∈ fields, ∀ value,
      validate follow field.2.toJson value = field.2.admits named value
  | (_, schema) :: rest, h, field, hmem, value => by
    obtain ⟨hschema, hrest⟩ := Bool.and_eq_true_iff.1 h
    rcases List.mem_cons.1 hmem with rfl | hmem
    · exact validate_toJson hnamed schema hschema value
    · exact validate_properties hnamed rest hrest field hmem value

theorem alternatives_alternativeMembers {named : String → Json → Verdict}
    (hnamed : Resolves follow named) :
    ∀ schemas : List Schema, wellFormedEach schemas → ∀ value,
      alternatives follow (alternativeMembers schemas) value = admitsEach named schemas value
  | [], _, _ => rfl
  | schema :: rest, h, value => by
    obtain ⟨hschema, hrest⟩ := Bool.and_eq_true_iff.1 h
    rw [alternativeMembers, alternatives, admitsEach,
      alternatives_alternativeMembers hnamed rest hrest]
    exact congrArg (· :: _) (validate_toJson hnamed schema hschema value)

end

/-! ### References -/

mutual

/-- The references that a schema is published with. -/
def references : Schema → List String
  | .named name => ["#/definitions/" ++ name]
  | .nullable schema | .listOf schema | .mapOf schema | .described _ schema => schema.references
  | .defaulting value schema => value.references ++ schema.references
  | .record fields _ => referencesOfFields fields
  | .oneOf schemas => referencesOfEach schemas
  | _ => []

/-- The references that the schemas of fields are published with. -/
def referencesOfFields : List (String × Schema) → List String
  | [] => []
  | (_, schema) :: rest => schema.references ++ referencesOfFields rest

/-- The references that schemas are published with. -/
def referencesOfEach : List Schema → List String
  | [] => []
  | schema :: rest => schema.references ++ referencesOfEach rest

end

section

variable {target : String}

/-- A member with a name of its own adds no references but those within it. -/
theorem mem_references_insertSorted {name : String} {argument : Json} (h : name ≠ "$ref")
    (hmem : target ∈ (Json.obj (Entries.insertSorted name argument members)).references) :
    target ∈ argument.references ∨ target ∈ (Json.obj members).references := by
  obtain ⟨member, hmember, htarget⟩ := mem_referencesOfMembers.1 hmem
  rcases Entries.mem_insertSorted hmember with rfl | hmember
  · exact .inl (referencesOfMember_of_ne h ▸ htarget)
  · exact .inr (mem_referencesOfMembers.2 ⟨member, hmember, htarget⟩)

theorem mem_references_annotate {name : String} {argument : Json} (h : name ≠ "$ref")
    (hmem : target ∈ (Json.obj (annotate name argument members)).references) :
    target ∈ argument.references ∨ target ∈ (Json.obj members).references := by
  unfold annotate at hmem
  split at hmem
  · rename_i reference
    refine (mem_references_insertSorted h hmem).imp_right fun hmem => ?_
    have hmem : target ∈ (Json.obj [("$ref", reference)]).references ++ [] ++ [] := hmem
    rwa [List.append_nil, List.append_nil] at hmem
  · exact mem_references_insertSorted h hmem

/-- A schema that admits null as well has no other references for it. -/
theorem mem_references_admitNull (hmem : target ∈ (Json.obj (admitNull members)).references) :
    target ∈ (Json.obj members).references := by
  unfold admitNull at hmem
  split at hmem
  · rename_i sort hsort
    obtain ⟨member, hmember, htarget⟩ := mem_referencesOfMembers.1 hmem
    rcases Entries.mem_put hmember with rfl | hmember
    · have htarget : target ∈ sort.references ++ [] := htarget
      rw [List.append_nil] at htarget
      refine mem_referencesOfMembers.2 ⟨("type", sort), Entries.mem_of_get? hsort, ?_⟩
      rwa [referencesOfMember_of_ne (by decide)]
    · exact mem_referencesOfMembers.2 ⟨member, hmember, htarget⟩
  · have hmem : target ∈ (Json.obj members).references ++ [] ++ [] := hmem
    rwa [List.append_nil, List.append_nil] at hmem

mutual

/-- A published schema has no other references. -/
theorem mem_references : ∀ schema : Schema, target ∈ schema.toJson.references →
    target ∈ schema.references
  | .text, h | .word _, h | .truth, h | .whole, h => absurd h List.not_mem_nil
  | .nullable schema, h => mem_references schema (mem_references_admitNull h)
  | .listOf schema, h | .mapOf schema, h => by
    have h : target ∈ schema.toJson.references ++ [] := h
    exact mem_references schema ((List.mem_append.1 h).resolve_right List.not_mem_nil)
  | .named name, h => h
  | .record fields required, h => by
    obtain ⟨member, hmember, htarget⟩ := mem_referencesOfMembers.1 h
    rcases List.mem_cons.1 hmember with rfl | hmember
    · exact mem_referencesOfFields fields htarget
    · rcases List.mem_append.1 hmember with hmember | hmember
      · split at hmember
        · exact absurd hmember List.not_mem_nil
        · rw [List.mem_singleton.1 hmember, referencesOfMember_of_ne (by decide),
            references_ofTexts] at htarget
          exact absurd htarget List.not_mem_nil
      · rw [List.mem_singleton.1 hmember] at htarget
        exact absurd htarget List.not_mem_nil
  | .oneOf schemas, h => by
    have h : target ∈ referencesOfElements (alternativeMembers schemas) ++ [] := h
    exact mem_referencesOfEach schemas ((List.mem_append.1 h).resolve_right List.not_mem_nil)
  | .described remark schema, h =>
    mem_references schema ((mem_references_annotate (by decide) h).resolve_left List.not_mem_nil)
  | .defaulting value schema, h =>
    List.mem_append.2 ((mem_references_annotate (by decide) h).imp_right (mem_references schema))

theorem mem_referencesOfFields : ∀ fields : List (String × Schema),
    target ∈ (Json.obj (propertyMembers fields)).references → target ∈ referencesOfFields fields
  | [], h => h
  | (name, schema) :: rest, h => by
    obtain ⟨member, hmember, htarget⟩ := mem_referencesOfMembers.1 h
    rcases Entries.mem_insertSorted hmember with rfl | hmember
    · exact List.mem_append_left _ (mem_references schema (referencesOfMember_obj ▸ htarget))
    · exact List.mem_append_right _
        (mem_referencesOfFields rest (mem_referencesOfMembers.2 ⟨member, hmember, htarget⟩))

theorem mem_referencesOfEach : ∀ schemas : List Schema,
    target ∈ referencesOfElements (alternativeMembers schemas) → target ∈ referencesOfEach schemas
  | [], h => h
  | schema :: rest, h =>
    List.mem_append.2
      ((List.mem_append.1 h).imp (mem_references schema) (mem_referencesOfEach rest))

end

end

end Schema

/-! ### Documents -/

namespace Json

/-- A step without a tilde is a name as it stands. -/
theorem stepName_of_notMem {step : List Char} (h : '~' ∉ step) : stepName step = step := by
  induction step with
  | nil => rfl
  | cons first rest ih =>
    obtain ⟨hfirst, hrest⟩ := not_or.1 (mt List.mem_cons.2 h)
    rw [stepName, ih hrest]
    · rintro rest' rfl
      exact absurd rfl hfirst
    · rintro rest' rfl
      exact absurd rfl hfirst

end Json

namespace SchemaDocument

open Schema Json

/-- What the definition of a name finds about a value, if names in it stand for definitions
    of the document too, at most so many in a row. -/
def named (document : SchemaDocument) : Nat → String → Json → Verdict
  | 0, _, _ => none
  | depth + 1, name, value =>
    (document.definition? name).bind fun schema => schema.admits (document.named depth) value

variable {document : SchemaDocument} {depth : Nat} {value : Json}

theorem get?_propertyMembers {fields : List (String × Schema)} {name : String} :
    Entries.get? name (propertyMembers fields) = (Entries.get? name fields).map Schema.toJson := by
  induction fields with
  | nil => rfl
  | cons field rest ih =>
    rw [propertyMembers, Entries.get?_insertSorted, Entries.get?_cons, ih]
    split <;> rfl

/-- A definition is found by its name. -/
theorem target?_toJson {name : String} (h : isPlain name) :
    document.toJson.target? ("#/definitions/" ++ name)
      = (document.definition? name).map Schema.toJson := by
  have hplain (c : Char) (hc : c ∈ name.toList) : c ≠ '/' ∧ c ≠ '~' := by
    simpa using List.all_eq_true.1 h c hc
  have hslash : '/' ∉ name.toList := fun hmem => (hplain _ hmem).1 rfl
  have htilde : '~' ∉ name.toList := fun hmem => (hplain _ hmem).2 rfl
  have hreference : ("#/definitions/" ++ name).toList
      = '#' :: ([] ++ '/' :: ("definitions".toList ++ '/' :: name.toList)) := by
    rw [String.toList_append]
    rfl
  have hpieces :
      pieces "/" (String.ofList ([] ++ '/' :: ("definitions".toList ++ '/' :: name.toList)))
        = ["", "definitions", name] := by
    have hdelimiter : "/".toList = ['/'] := rfl
    rw [pieces, hdelimiter, String.toList_ofList, piecesFrom_append List.not_mem_nil,
      piecesFrom_append (by decide), piecesFrom_of_notMem hslash]
    simp
  have hstep : String.ofList (stepName "definitions".toList) = "definitions" := by decide
  have hname : String.ofList (stepName name.toList) = name := by
    rw [stepName_of_notMem htilde, String.ofList_toList]
  rw [target?, hreference]
  simp only [at?, hpieces]
  rw [toJson, descend?, hstep, Entries.get?_insertSorted, if_neg (by decide),
    Entries.get?_insertSorted, if_pos rfl, Option.bind_some, descend?, hname, get?_propertyMembers]
  change (Option.map Schema.toJson (document.definition? name)).bind (descend? []) = _
  cases document.definition? name <;> rfl

/-- The references that a document is published with. -/
def references (document : SchemaDocument) : List String :=
  document.root.references ++ referencesOfFields document.definitions

/-- The schemas of a document are well-formed, and refer to definitions of the document. -/
structure WellFormed (document : SchemaDocument) : Prop where
  root : document.root.wellFormed
  definitions : wellFormedProperties document.definitions
  closed : ∀ reference ∈ document.references, ∃ definition ∈ document.definitions,
    isPlain definition.1 ∧ reference = "#/definitions/" ++ definition.1

/-- Every reference in a published document leads to a definition. -/
theorem exists_target?_of_mem (h : document.WellFormed) {reference : String}
    (hmem : reference ∈ document.toJson.references) :
    ∃ definition ∈ document.definitions,
      document.toJson.target? reference = some definition.2.toJson := by
  have hreference : reference ∈ document.references := by
    have hempty : reference ∉ ([] : List String) := List.not_mem_nil
    -- The title, the definitions and the name of the language stand beside the root.
    rcases mem_references_insertSorted (by decide) hmem with hmem | hmem
    · exact absurd hmem hempty
    · rcases mem_references_insertSorted (by decide) hmem with hmem | hmem
      · exact List.mem_append_right _ (mem_referencesOfFields _ hmem)
      · exact List.mem_append_left _ (mem_references _
          ((mem_references_insertSorted (by decide) hmem).resolve_left hempty))
  obtain ⟨definition, hdefinition, hplain, rfl⟩ := h.closed reference hreference
  obtain ⟨schema, hschema⟩ := Option.ne_none_iff_exists'.1
    (mt Entries.get?_eq_none_iff.1 (not_not.2 (List.mem_map_of_mem (f := (·.1)) hdefinition)))
  refine ⟨(definition.1, schema), Entries.mem_of_get? hschema, ?_⟩
  rw [target?_toJson hplain, definition?, hschema, Option.map_some]

theorem exists_validate_eq (document : Json) (depth : Nat) :
    ∃ follow, document.validateWithin depth = validate follow := by
  cases depth with
  | zero => exact ⟨_, rfl⟩
  | succ depth => exact ⟨_, rfl⟩

/-- To any depth a published document finds what it admits. -/
theorem validateWithin_toJson (h : document.WellFormed) {schema : Schema}
    (hschema : schema.wellFormed) :
    document.toJson.validateWithin depth schema.toJson value
      = schema.admits (document.named depth) value := by
  induction depth generalizing schema value with
  | zero => exact validate_toJson (fun _ _ _ => rfl) schema hschema value
  | succ depth ih =>
    refine validate_toJson (fun name hname value => ?_) schema hschema value
    rw [target?_toJson hname, named]
    cases hdefinition : document.definition? name with
    | none => rfl
    | some definition =>
      exact ih (wellFormed_of_mem h.definitions (Entries.mem_of_get? hdefinition))

theorem validateWithin_document (h : document.WellFormed) :
    document.toJson.validateWithin depth document.toJson value
      = document.root.admits (document.named depth) value := by
  rw [← validateWithin_toJson h h.root]
  obtain ⟨follow, hfollow⟩ := exists_validate_eq document.toJson depth
  rw [hfollow]
  exact (validate_insertSorted (by decide) _).trans
    ((validate_insertSorted (by decide) _).trans (validate_insertSorted (by decide) _))

theorem map_validateWithin_alternativeMembers (h : document.WellFormed) {schemas : List Schema}
    (hschemas : wellFormedEach schemas) :
    (alternativeMembers schemas).map (document.toJson.validateWithin depth · value)
      = admitsEach (document.named depth) schemas value := by
  induction schemas with
  | nil => rfl
  | cons schema rest ih =>
    obtain ⟨hschema, hrest⟩ := Bool.and_eq_true_iff.1 hschemas
    rw [alternativeMembers, List.map_cons, ih hrest, admitsEach]
    exact congrArg (· :: _) (validateWithin_toJson h hschema)

/-- The alternatives of a definition find what its schemas admit. -/
theorem branches_toJson (h : document.WellFormed) (name : String) (schemas : List Schema)
    {schema : Schema} (hplain : isPlain name)
    (hdefinition : document.definition? name = some schema) (hschemas : wellFormedEach schemas)
    (hmember : schema.toJson.member? "oneOf" = some (.arr (alternativeMembers schemas))) :
    document.toJson.branches depth ("#/definitions/" ++ name) value
      = admitsEach (document.named depth) schemas value := by
  rw [branches, target?_toJson hplain, hdefinition, Option.map_some, Option.bind_some, hmember]
  exact map_validateWithin_alternativeMembers h hschemas

end SchemaDocument

end SamTemplate
