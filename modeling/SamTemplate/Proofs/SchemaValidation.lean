import SamTemplate.Json.Pointer
import SamTemplate.Schema
import SamTemplate.Proofs.Reordering

/-!
# Validation against published schemas

Validation as JSON Schema of draft 7 has it: what the keywords of a schema find about a
value is put together, and a reference is followed into the document that it stands in.
It knows the keywords that schemas are published with. By any other one, and beyond the
depth to which references are followed, nothing is found: a value is accepted only where
everything that the schema says about it is known.

* `Json.validate_insertSorted`: an annotation changes nothing;
* `Json.Accepts`: a document accepts a value, however far its references are followed from
  some depth on.
-/

namespace SamTemplate

/-- Whether the number is whole. -/
def Binary64.isWhole (x : Binary64) : Bool :=
  match x.view with
  | .finite _ m q => 0 ≤ q || m % Nat.pow 2 (-q).toNat == 0
  | _ => false

/-- What is found about a value: that it is as it should be, that it is not, or nothing. -/
abbrev Verdict := Option Bool

namespace Verdict

variable {verdict : Verdict} {verdicts others : List Verdict}

/-- Whether all find that the value is as it should be. -/
def all (verdicts : List Verdict) : Verdict :=
  if some false ∈ verdicts then some false else if none ∈ verdicts then none else some true

/-- Whether any finds that the value is as it should be. -/
def any (verdicts : List Verdict) : Verdict :=
  if some true ∈ verdicts then some true else if none ∈ verdicts then none else some false

/-- Whether exactly one finds that the value is as it should be. -/
def exactlyOne (verdicts : List Verdict) : Verdict :=
  if none ∈ verdicts then none else some (verdicts.count (some true) == 1)

/-- A value is as it should be for all if it is for each: to find nothing is not enough. -/
theorem all_eq_true_iff :
    all verdicts = some true ↔ ∀ verdict ∈ verdicts, verdict = some true := by
  constructor
  · intro h verdict hmem
    -- A verdict that is not `some true` would have been that of all.
    unfold all at h
    rcases verdict with _ | _ | _
    · split at h <;> simp_all
    · simp [hmem] at h
    · rfl
  · intro h
    have hfalse : some false ∉ verdicts := fun hmem => nomatch h _ hmem
    have hnone : none ∉ verdicts := fun hmem => nomatch h _ hmem
    rw [all, if_neg hfalse, if_neg hnone]

/-- One that finds that it is not settles the matter, also where others find nothing. -/
theorem all_eq_false_of_mem (h : some false ∈ verdicts) : all verdicts = some false := if_pos h

/-- Those that find the value as it should be do not count. -/
theorem all_eq_of_mem_iff
    (h : ∀ verdict, verdict ≠ some true → (verdict ∈ verdicts ↔ verdict ∈ others)) :
    all verdicts = all others := by
  rw [all, all]
  simp only [h (some false) (by decide), h none (by decide)]

@[simp]
theorem all_false_cons : all (some false :: verdicts) = some false :=
  all_eq_false_of_mem List.mem_cons_self

@[simp]
theorem all_singleton : all [verdict] = verdict := by
  rcases verdict with _ | _ | _ <;> rfl

@[simp]
theorem all_some_pair {a b : Bool} : all [some a, some b] = some (a && b) := by
  cases a <;> cases b <;> rfl

@[simp]
theorem all_pair_true : all [verdict, some true] = verdict := by
  rcases verdict with _ | _ | _ <;> rfl

@[simp]
theorem all_pair_false : all [verdict, some false] = some false := by
  rcases verdict with _ | _ | _ <;> rfl

@[simp]
theorem any_pair_true : any [verdict, some true] = some true := by
  rcases verdict with _ | _ | _ <;> rfl

@[simp]
theorem any_pair_false : any [verdict, some false] = verdict := by
  rcases verdict with _ | _ | _ <;> rfl

end Verdict

/-! ### Sorted entries -/

namespace Entries

variable {α : Type} {key : String} {value : α} {pair : String × α} {entries : Entries α}

/-- What is put in is there. -/
theorem mem_insertSorted_self : (key, value) ∈ insertSorted key value entries := by
  induction entries with
  | nil => exact List.mem_singleton_self _
  | cons head rest ih =>
    simp only [insertSorted]
    split
    · exact List.mem_cons_self
    · split
      · exact List.mem_cons_self
      · exact List.mem_cons_of_mem _ ih

/-- What stands under other keys stays. -/
theorem mem_insertSorted_of_ne (hne : pair.1 ≠ key) (h : pair ∈ entries) :
    pair ∈ insertSorted key value entries := by
  induction entries with
  | nil => exact nomatch h
  | cons head rest ih =>
    simp only [insertSorted]
    split
    · exact List.mem_cons_of_mem _ h
    · rcases List.mem_cons.1 h with rfl | h
      · rw [if_neg hne]
        exact List.mem_cons_self
      · split
        · exact List.mem_cons_of_mem _ h
        · exact List.mem_cons_of_mem _ (ih h)

/-- A key is there if it was or if it is put in. -/
theorem mem_keys_insertSorted {other : String} :
    other ∈ keys (insertSorted key value entries) ↔ other = key ∨ other ∈ keys entries := by
  -- Where an entry is put in is a matter of order, but not what is found under a key.
  have hkeys (entries : Entries α) : other ∈ keys entries ↔ get? other entries ≠ none := by
    rw [Ne, get?_eq_none_iff, not_not]
  rw [hkeys, hkeys, get?_insertSorted]
  split
  · simp [*]
  · simp [*, Ne.symm]

/-- The last entry is found if no earlier one has its key. -/
theorem get?_concat_self (h : key ∉ keys entries) :
    get? key (entries ++ [(key, value)]) = some value := by
  induction entries with
  | nil => exact if_pos rfl
  | cons head rest ih =>
    obtain ⟨hhead, hrest⟩ := not_or.1 (mt List.mem_cons.2 h)
    rw [List.cons_append, get?_cons, if_neg (Ne.symm hhead), ih hrest]

/-- It is not found under other keys. -/
theorem get?_concat_of_ne {other : String} (h : key ≠ other) :
    get? other (entries ++ [(key, value)]) = get? other entries := by
  induction entries with
  | nil => exact if_neg h
  | cons head rest ih => rw [List.cons_append, get?_cons, get?_cons, ih]

/-- A new value takes its place at the end. -/
theorem put_concat_self {value' : α} (h : key ∉ keys entries) :
    put key value' (entries ++ [(key, value)]) = entries ++ [(key, value')] := by
  induction entries with
  | nil => exact if_pos rfl
  | cons head rest ih =>
    obtain ⟨hhead, hrest⟩ := not_or.1 (mt List.mem_cons.2 h)
    rw [List.cons_append, put, if_neg (Ne.symm hhead), ih hrest, List.cons_append]

end Entries

/-! ### Validation -/

namespace Json

/-- The text that a value is. -/
def text? : Json → Option String
  | .str text => some text
  | _ => none

/-- The texts that a value is a list of, or the one that it is. -/
def texts? : Json → Option (List String)
  | .arr elements => elements.mapM text?
  | value => value.text?.map ([·])

/-- Whether a value is of the sort of that name. -/
def isOfSort (sort : String) : Json → Bool
  | .null => sort = "null"
  | .bool _ => sort = "boolean"
  | .int _ => sort = "integer" || sort = "number"
  | .float value => sort = "number" || sort = "integer" && value.isWhole
  | .str _ => sort = "string"
  | .arr _ => sort = "array"
  | .obj _ => sort = "object"

/-- Whether a value has the format of that name, as far as it is one for such values. -/
def hasFormat (format : String) : Json → Bool
  | .int value => format ≠ "int64" || (int64OfInt? value).isSome
  | _ => true

/-- The names of the properties that a schema tells apart. -/
def propertyNames (schema : Entries Json) : List String :=
  match Entries.get? "properties" schema with
  | some (.obj properties) => Entries.keys properties
  | _ => []

mutual

/-- What a schema finds about a value; `follow` is what a reference finds. Beside a reference
    no keyword counts. -/
def validate (follow : String → Json → Verdict) : Json → Json → Verdict
  | .bool admitted, _ => some admitted
  | .obj members, value =>
    match Entries.get? "$ref" members with
    | some (.str target) => follow target value
    | _ => .all (keywords follow (propertyNames members) members value)
  | _, _ => none
termination_by structural schema => schema

/-- What the keywords of a schema find about a value. -/
def keywords (follow : String → Json → Verdict) (known : List String) :
    List (String × Json) → Json → List Verdict
  | [], _ => []
  | member :: rest, value => keyword follow known member value :: keywords follow known rest value
termination_by structural members => members

/-- What a keyword of a schema finds about a value; `known` are the names that the schema
    tells apart. Most keywords are about one sort of values only. -/
def keyword (follow : String → Json → Verdict) (known : List String) :
    String × Json → Json → Verdict
  | ("type", sorts), value => sorts.texts?.map fun names => names.any (isOfSort · value)
  | ("format", .str format), value => some (value.hasFormat format)
  | ("enum", .arr words), value =>
    (words.mapM text?).map fun texts => texts.any fun text => value.text? = some text
  | ("required", .arr names), .obj members =>
    (names.mapM text?).map fun names => names.all fun name => name ∈ Entries.keys members
  | ("properties", .obj schemas), .obj members => .all (properties follow schemas members)
  | ("additionalProperties", schema), .obj members =>
    .all ((members.filter fun member => member.1 ∉ known).map fun member =>
      validate follow schema member.2)
  | ("items", schema), .arr elements =>
    .all (elements.map fun element => validate follow schema element)
  | ("allOf", .arr schemas), value => .all (alternatives follow schemas value)
  | ("anyOf", .arr schemas), value => .any (alternatives follow schemas value)
  | ("oneOf", .arr schemas), value => .exactlyOne (alternatives follow schemas value)
  | ("required", .arr _), _ | ("properties", .obj _), _ | ("additionalProperties", _), _
  | ("items", _), _ => some true
  | ("$schema", _), _ | ("definitions", _), _ | ("title", _), _ | ("description", _), _
  | ("default", _), _ => some true
  | _, _ => none
termination_by structural member => member

/-- What schemas find about a value, one by one. -/
def alternatives (follow : String → Json → Verdict) : List Json → Json → List Verdict
  | [], _ => []
  | schema :: rest, value => validate follow schema value :: alternatives follow rest value
termination_by structural schemas => schemas

/-- What the schemas of properties find about the members of an object. -/
def properties (follow : String → Json → Verdict) :
    List (String × Json) → Entries Json → List Verdict
  | [], _ => []
  | member :: rest, members => property follow member members :: properties follow rest members
termination_by structural schemas => schemas

/-- What the schema of a property finds about the members of an object, which may lack it. -/
def property (follow : String → Json → Verdict) : String × Json → Entries Json → Verdict
  | (name, schema), members =>
    match Entries.get? name members with
    | some value => validate follow schema value
    | none => some true
termination_by structural member => member

end

/-- The schema that a reference in a document leads to. -/
def target? (document : Json) (reference : String) : Option Json :=
  match reference.toList with
  | '#' :: pointer => document.at? (String.ofList pointer)
  | _ => none

/-- What a schema in a document finds about a value, if at most so many references in a row
    are followed. -/
def validateWithin (document : Json) : Nat → Json → Json → Verdict
  | 0 => validate fun _ _ => none
  | depth + 1 => validate fun reference value =>
    (document.target? reference).bind fun schema => document.validateWithin depth schema value

/-- The value is as the schema that is the whole document has it, to some depth and to any
    greater one. -/
def Accepts (document value : Json) : Prop :=
  ∃ depth, ∀ more, depth ≤ more → document.validateWithin more document value = some true

/-- What the alternatives find about a value of which the schema that a reference leads to
    asks for one. -/
def branches (document : Json) (depth : Nat) (reference : String) (value : Json) : List Verdict :=
  match (document.target? reference).bind (member? "oneOf") with
  | some (.arr schemas) => schemas.map fun schema => document.validateWithin depth schema value
  | _ => []

mutual

/-- The references in a schema, and in all that stands in it. -/
def references : Json → List String
  | .arr elements => referencesOfElements elements
  | .obj members => referencesOfMembers members
  | _ => []
termination_by structural schema => schema

/-- The references in the elements of a list. -/
def referencesOfElements : List Json → List String
  | [] => []
  | element :: rest => references element ++ referencesOfElements rest
termination_by structural elements => elements

/-- The references in the members of an object. -/
def referencesOfMembers : List (String × Json) → List String
  | [] => []
  | member :: rest => referencesOfMember member ++ referencesOfMembers rest
termination_by structural members => members

/-- The references in a member of an object, or the one that it is. -/
def referencesOfMember : String × Json → List String
  | ("$ref", .str target) => [target]
  | (_, value) => references value
termination_by structural member => member

end

variable {follow : String → Json → Verdict} {known : List String} {value : Json}
  {members : Entries Json}

/-- The keywords of a schema are looked at one by one, each for itself. -/
theorem keywords_eq_map :
    keywords follow known members value = members.map (keyword follow known · value) := by
  induction members with
  | nil => rfl
  | cons member rest ih => rw [keywords, ih, List.map_cons]

/-- So are the properties that it tells apart. -/
theorem properties_eq_map {schemas : Entries Json} :
    properties follow schemas members = schemas.map (property follow · members) := by
  induction schemas with
  | nil => rfl
  | cons schema rest ih => rw [properties, ih, List.map_cons]

theorem mapM_text?_map_str (texts : List String) : (texts.map str).mapM text? = some texts := by
  induction texts with
  | nil => rfl
  | cons text rest ih => rw [List.map_cons, List.mapM_cons, ih]; rfl

/-- A reference of an object stands in one of its members. -/
theorem mem_referencesOfMembers {target : String} :
    target ∈ referencesOfMembers members
      ↔ ∃ member ∈ members, target ∈ referencesOfMember member := by
  induction members with
  | nil => simp [referencesOfMembers]
  | cons member rest ih => rw [referencesOfMembers, List.mem_append, ih, List.exists_mem_cons_iff]

/-- A member of another name is no reference, but can have some in it. -/
theorem referencesOfMember_of_ne {name : String} (h : name ≠ "$ref") :
    referencesOfMember (name, value) = references value := by
  rw [referencesOfMember]
  rintro target rfl
  exact absurd rfl h

/-- A list of texts refers to nothing, whatever the texts are. -/
theorem references_ofTexts (texts : List String) : (ofTexts texts).references = [] := by
  change referencesOfElements (texts.map str) = []
  induction texts with
  | nil => rfl
  | cons text rest ih => exact ih

/-- Nor is a member with an object for its value a reference, whatever its
    name. -/
theorem referencesOfMember_obj {name : String} :
    referencesOfMember (name, .obj members) = references (.obj members) := by
  rw [referencesOfMember]
  exact fun _ _ h => nomatch h

/-! ### Keywords -/

/-- A schema that refers to another one is that one, whatever else it says. -/
theorem validate_of_ref {target : String} (h : Entries.get? "$ref" members = some (.str target)) :
    validate follow (.obj members) value = follow target value := by
  rw [validate, h]

/-- Any other schema is all of its keywords. -/
theorem validate_of_no_ref (h : Entries.get? "$ref" members = none) :
    validate follow (.obj members) value
      = .all (members.map (keyword follow (propertyNames members) · value)) := by
  rw [validate, h, keywords_eq_map]

/-- Keywords that say nothing about values. -/
def annotations : List String := ["$schema", "definitions", "title", "description", "default"]

/-- An annotation finds every value as it should be, whatever it says. -/
theorem keyword_of_mem_annotations {name : String} (h : name ∈ annotations) (argument : Json) :
    keyword follow known (name, argument) value = some true := by
  simp only [annotations, List.mem_cons, List.not_mem_nil, or_false] at h
  rcases h with rfl | rfl | rfl | rfl | rfl <;> rfl

/-- The properties that a schema tells apart stand under one keyword only. -/
theorem propertyNames_insertSorted {name : String} (h : name ≠ "properties") (argument : Json) :
    propertyNames (Entries.insertSorted name argument members) = propertyNames members := by
  rw [propertyNames, Entries.get?_insertSorted, if_neg h, propertyNames]

/-- A keyword that says nothing about values changes nothing. -/
theorem validate_insertSorted {name : String} (h : name ∈ annotations) (argument : Json) :
    validate follow (.obj (Entries.insertSorted name argument members)) value
      = validate follow (.obj members) value := by
  have href : name ≠ "$ref" := by rintro rfl; exact absurd h (by decide)
  have hproperties : name ≠ "properties" := by rintro rfl; exact absurd h (by decide)
  rw [validate, validate, Entries.get?_insertSorted, if_neg href,
    propertyNames_insertSorted hproperties, keywords_eq_map, keywords_eq_map]
  split
  · rfl
  · -- The annotation only adds or replaces a verdict that does not count. Every other verdict
    -- comes from a member of another name.
    refine Verdict.all_eq_of_mem_iff fun verdict hv => ?_
    have hother (member : String × Json)
        (hm : keyword follow (propertyNames members) member value = verdict) :
        member.1 ≠ name := by
      rintro rfl
      exact hv (hm.symm.trans (keyword_of_mem_annotations h member.2))
    rw [List.mem_map, List.mem_map]
    constructor
    · rintro ⟨member, hmem, hm⟩
      rcases Entries.mem_insertSorted hmem with rfl | hmem
      · exact absurd rfl (hother _ hm)
      · exact ⟨member, hmem, hm⟩
    · rintro ⟨member, hmem, hm⟩
      exact ⟨member, Entries.mem_insertSorted_of_ne (hother _ hm) hmem, hm⟩

/-- A value has the one sort that is named. -/
theorem keyword_type {known : List String} {sort : String} :
    keyword follow known ("type", .str sort) value = some (value.isOfSort sort) := by
  -- The sort is read as a list of one.
  change some (_ || false) = _
  rw [Bool.or_false]

/-- Or it may have that sort or be null. -/
theorem keyword_type_or_null {known : List String} {sort : String} :
    keyword follow known ("type", .arr [.str sort, .str "null"]) value
      = some (value.isOfSort sort || value.isOfSort "null") := by
  change some (_ || (_ || false)) = _
  rw [Bool.or_false]

/-- An object has a member of each name that is asked for. -/
theorem keyword_required {known names : List String} :
    keyword follow known ("required", .ofTexts names) (.obj members)
      = some (names.all fun name => name ∈ Entries.keys members) := by
  change ((names.map Json.str).mapM text?).map _ = _
  rw [mapM_text?_map_str]
  rfl

theorem keyword_properties {schemas : Entries Json} :
    keyword follow known ("properties", .obj schemas) (.obj members)
      = .all (properties follow schemas members) := rfl

theorem keyword_additionalProperties {schema : Json} :
    keyword follow known ("additionalProperties", schema) (.obj members)
      = .all ((members.filter fun member => member.1 ∉ known).map fun member =>
          validate follow schema member.2) := rfl

/-- Only null has the sort of null. -/
theorem isOfSort_null_of_ne (h : value ≠ .null) : value.isOfSort "null" = false := by
  cases value with
  | null => exact absurd rfl h
  | _ => rfl

end Json

end SamTemplate
