import SamTemplate.Proofs.LenientReadings
import SamTemplate.Proofs.MemberOrder
import SamTemplate.Proofs.Places

/-!
# Records that differ in one member

A record is read from the members of an object by the readers of its fields. If two objects agree
but for one member, and the field of this name reads the same from both, so does the record
(`Reader.record_eq_of_agreesBut`), with the same misfit if there is one. So what is read from a
tree as a record does not change when an integer deep inside is written in another way
(`Throughput.read_eq_of_apart`, `Lifecycle.read_eq_of_apart`).

* `Throughput.toOption_read`: when a capacity is read, and with which numbers;
* `Node.HasRules.exists_read`, `Lifecycle.reads_of_apart`: rules whose parts have the types that
  they should have are read, and the one with the integer as its days has it.
-/

namespace SamTemplate

open Node Reader

/-- Two nodes that stand for the same integer. -/
def Node.BothInt (i : Int64) (a b : Node) : Prop := a.int? = some i ∧ b.int? = some i

/-! ### JSON of trees that agree but at one place -/

section

variable {key : String} {U : Node → Node → Prop} {S : Json → Json → Prop}

theorem Entries.AgreesBut.entriesJson {entries entries' : Entries Node}
    (h : entries.AgreesBut key U entries') (hU : ∀ a b, U a b → S a.toJson b.toJson) :
    Entries.AgreesBut key S (Node.entriesJson entries) (Node.entriesJson entries') := by
  induction h with
  | nil => exact .nil
  | @cons a b _ _ hpair _ ih =>
    obtain ⟨name, node⟩ := a
    obtain ⟨name', node'⟩ := b
    obtain ⟨hname, hnode⟩ := hpair
    obtain rfl : name = name' := hname
    refine Entries.forall₂_insertSorted_keyed
      (P := fun name a b => if name = key then S a b else a = b) ih ?_
    simp only at hnode ⊢
    split_ifs at hnode ⊢
    · exact hU _ _ hnode
    · rw [hnode]

theorem ItemsApart.elements_eq {α : Type} {read : Reader α} {index : Nat} {items items' : List Node}
    (h : ItemsApart U index items items') (hU : ∀ a b, U a b → read a.toJson = read b.toJson) :
    elements read (itemsJson items) = elements read (itemsJson items') := by
  induction h with
  | here hab => rw [itemsJson, itemsJson, elements, elements, hU _ _ hab]
  | later _ ih => rw [itemsJson, itemsJson, elements, elements, ih]

end

/-! ### Fields -/

namespace Fields

variable {α β : Type} {key name : String} {S : Json → Json → Prop} {read : Reader α}
  {members members' : Entries Json}

/-- The members of an object as values of fields. -/
def membersSource (members : Entries Json) : Source :=
  ⟨fun _ name => members.get? name, fun _ name => .missing name⟩

/-- Fields that are read the same from objects that agree but for one member. -/
structure Alike (key : String) (S : Json → Json → Prop) (fields : Fields α) : Prop where
  misfit : ∀ a b, S a b → fields.misfit? key a = fields.misfit? key b
  build : ∀ place members members', members.AgreesBut key S members' →
    fields.build place (membersSource members) = fields.build place (membersSource members')

theorem alike_nothing (a : α) : (nothing a).Alike key S := ⟨fun _ _ _ => rfl, fun _ _ _ _ => rfl⟩

theorem Alike.append {fields : Fields (α → β)} {second : Fields α} (hf : fields.Alike key S)
    (hs : second.Alike key S) : (fields.append second).Alike key S where
  misfit a b hab := by simp only [Fields.append, hf.misfit a b hab, hs.misfit a b hab]
  build place members members' h := by
    simp only [Fields.append, hf.build _ _ _ h, hs.build _ _ _ h]

/-- A field of another name is read from what agrees. -/
theorem alike_field (hread : name = key → ∀ a b, S a b → read a = read b) (fallback : Option α) :
    (field name read fallback).Alike key S where
  misfit a b hab := by
    simp only [field]
    split
    · rename_i hname
      rw [hread hname.symm a b hab]
    · rfl
  build place members members' h := by
    simp only [field, membersSource]
    by_cases hname : name = key
    · subst hname
      rcases rel_cases h.rel_get? with ⟨hnone, hnone'⟩ | ⟨a, b, hsome, hsome', hab⟩
      · rw [hnone, hnone']
      · rw [hsome, hsome']
        exact hread rfl a b hab
    · rw [h.get?_eq hname]

theorem Alike.required {fields : Fields (α → β)} (hf : fields.Alike key S)
    (hread : name = key → ∀ a b, S a b → read a = read b) :
    (fields.required name read).Alike key S :=
  hf.append (alike_field hread none)

theorem Alike.optional {fields : Fields (α → β)} {fallback : α} (hf : fields.Alike key S)
    (hread : name = key → ∀ a b, S a b → read a = read b) :
    (fields.optional name read fallback).Alike key S :=
  hf.append (alike_field hread (some fallback))

theorem build_append_eq_ok_iff {fields : Fields (α → β)} {second : Fields α} {place : Nat}
    {source : Source} {b : β} :
    (fields.append second).build place source = .ok b
      ↔ ∃ f a, fields.build place source = .ok f ∧
          second.build (place + fields.names.length) source = .ok a ∧ f a = b := by
  simp only [Fields.append, except_bind_eq_ok_iff]
  constructor
  · rintro ⟨f, hf, a, ha, h⟩
    exact ⟨f, a, hf, ha, Except.ok.inj h⟩
  · rintro ⟨f, a, hf, ha, rfl⟩
    exact ⟨f, hf, a, ha, rfl⟩

/-- A field that is given has the value that is read. -/
theorem build_field_of_get? {json : Json} (hget : members.get? name = some json)
    (fallback : Option α) (place : Nat) :
    (field name read fallback).build place (membersSource members) = read json := by
  simp only [field, membersSource, hget]

end Fields

open Fields

namespace Reader

variable {α : Type} {key : String} {S : Json → Json → Prop} {members members' : Entries Json}
  {fields : Fields α} {stage : Stage} {what : String}

/-- Objects that agree but for one member are read as the same record, or there is the same
    misfit. -/
theorem record_eq_of_agreesBut (h : members.AgreesBut key S members')
    (hfields : fields.Alike key S) :
    record stage what fields (.obj members) = record stage what fields (.obj members') := by
  -- The first member that is a misfit is at the same place in both.
  have hmisfit : (members.findSome? fun member => fields.misfit? member.1 member.2)
      = members'.findSome? fun member => fields.misfit? member.1 member.2 := by
    induction h with
    | nil => rfl
    | @cons a b _ _ hpair _ ih =>
      have hfirst : fields.misfit? a.1 a.2 = fields.misfit? b.1 b.2 := by
        rw [← hpair.1]
        by_cases hkey : a.1 = key
        · rw [hkey]
          exact hfields.misfit _ _ (by simpa [hkey] using hpair.2)
        · have hvalue : a.2 = b.2 := by simpa [hkey] using hpair.2
          rw [hvalue]
      rw [List.findSome?_cons, List.findSome?_cons, hfirst, ih]
  have hbuild := hfields.build 0 members members' h
  simp only [membersSource] at hbuild
  simp only [record, hmisfit, hbuild]

/-- A record that is read is built from the members. -/
theorem build_of_record_eq_ok {a : α} (h : record stage what fields (.obj members) = .ok a) :
    fields.build 0 (membersSource members) = .ok a := by
  rw [record] at h
  split at h
  · cases h
  · exact h

end Reader

/-! ### Integers inside of properties -/

section

variable {i : Int64} {name : String} {a b : Node}

theorem Reader.lenientInt64_of_int? (h : a.int? = some i) : lenientInt64 a.toJson = .ok i :=
  ((lenient_toJson a).1 i).2 h

/-- What stands for an integer is not `null`, in its JSON either. -/
theorem Reader.optional_lenientInt64_of_int? (h : a.int? = some i) :
    optional lenientInt64 a.toJson = .ok (some i) := by
  have hread := lenientInt64_of_int? h
  have hnull : a.toJson ≠ .null := fun hnull => by
    rw [hnull] at hread
    exact nomatch hread
  rw [optional_of_ne_null _ hnull, hread]
  rfl

/-- A capacity is read the same, in whatever way one of its numbers is written. -/
theorem Throughput.read_eq_of_apart (h : ApartAt (BothInt i) [.key name] a b) :
    Throughput.read a.toJson = Throughput.read b.toJson := by
  obtain ⟨entries, entries', rfl, rfl, -, hagrees⟩ := h
  refine record_eq_of_agreesBut (S := fun a b => lenientInt64 a = lenientInt64 b)
    (hagrees.entriesJson fun a b hab => ?_) ?_
  · rw [lenientInt64_of_int? hab.1, lenientInt64_of_int? hab.2]
  · exact ((alike_nothing _).required fun _ _ _ hab => hab).required fun _ _ _ hab => hab

theorem LifecycleRule.read_eq_of_apart (h : ApartAt (BothInt i) [.key "ExpirationInDays"] a b) :
    LifecycleRule.read a.toJson = LifecycleRule.read b.toJson := by
  obtain ⟨entries, entries', rfl, rfl, -, hagrees⟩ := h
  refine record_eq_of_agreesBut
    (S := fun a b => Reader.optional lenientInt64 a = Reader.optional lenientInt64 b)
    (hagrees.entriesJson fun a b hab => ?_) ?_
  · rw [optional_lenientInt64_of_int? hab.1, optional_lenientInt64_of_int? hab.2]
  · exact (((alike_nothing _).optional (by simp)).required (by simp)).optional (by simp)
      |>.optional fun _ _ _ hab => hab

/-- Rules are read the same, in whatever way the days of one of them are written. -/
theorem Lifecycle.read_eq_of_apart {index : Nat}
    (h : ApartAt (BothInt i) [.key "Rules", .item index, .key "ExpirationInDays"] a b) :
    Lifecycle.read a.toJson = Lifecycle.read b.toJson := by
  obtain ⟨entries, entries', rfl, rfl, -, hagrees⟩ := h
  refine record_eq_of_agreesBut
    (S := fun a b => Reader.list LifecycleRule.read a = Reader.list LifecycleRule.read b)
    (hagrees.entriesJson ?_) ((alike_nothing _).optional fun _ _ _ hab => hab)
  rintro _ _ ⟨items, items', rfl, rfl, hitems⟩
  exact hitems.elements_eq fun _ _ => LifecycleRule.read_eq_of_apart

/-- A member of an object is the JSON of what a mapping has under its name. -/
theorem exists_get?_entriesJson {U : Node → Node → Prop} {entries entries' : Entries Node}
    (hmem : name ∈ entries.keys) (h : entries.AgreesBut name U entries') :
    ∃ a b, U a b ∧ Entries.get? name (entriesJson entries) = some a.toJson := by
  obtain ⟨a, b, hab, hget, -⟩ := h.exists_get? hmem
  exact ⟨a, b, hab, by rw [get?_entriesJson, hget, Option.map_some]⟩

/-- A capacity is read if both of its numbers are integers. -/
theorem Throughput.read_toJson_iff {entries : Entries Node} {capacity : Throughput} :
    Throughput.read (Node.map entries).toJson = .ok capacity ↔
      (entries.get? "ReadCapacityUnits").bind int? = some capacity.readCapacityUnits ∧
        (entries.get? "WriteCapacityUnits").bind int? = some capacity.writeCapacityUnits := by
  have hfield (name : String) (place : Nat) (i : Int64) :
      (field name lenientInt64 none).build place (membersSource (entriesJson entries)) = .ok i
        ↔ (entries.get? name).bind int? = some i := by
    simp only [field, membersSource, get?_entriesJson]
    cases entries.get? name with
    | none => simp
    | some node => exact (lenient_toJson node).1 i
  constructor
  · intro hread
    obtain ⟨f, w, hf, hw, rfl⟩ := build_append_eq_ok_iff.1 (build_of_record_eq_ok hread)
    obtain ⟨g, r, hg, hr, rfl⟩ := build_append_eq_ok_iff.1 hf
    obtain rfl := Except.ok.inj hg
    exact ⟨(hfield _ _ _).1 hr, (hfield _ _ _).1 hw⟩
  · rintro ⟨hr, hw⟩
    have hreads {name : String} {i : Int64} (h : (entries.get? name).bind int? = some i) :
        ∃ json, Entries.get? name (entriesJson entries) = some json ∧
          lenientInt64 json = .ok i := by
      obtain ⟨node, hget, hint⟩ := Option.bind_eq_some_iff.1 h
      exact ⟨node.toJson, by rw [get?_entriesJson, hget, Option.map_some],
        lenientInt64_of_int? hint⟩
    obtain ⟨json, hget, hread⟩ := hreads hr
    obtain ⟨json', hget', hread'⟩ := hreads hw
    exact record_eq_ok (sorted_entriesJson entries).distinct fun hd =>
      ((reads_nothing _ _).required hd hget hread).required hd hget' hread'

theorem except_toOption_eq_some_iff {ε α : Type} {x : Except ε α} {a : α} :
    x.toOption = some a ↔ x = .ok a := by
  cases x <;> simp [Except.toOption]

/-- There is a capacity with the two numbers, if both are given. -/
theorem Throughput.toOption_read (entries : Entries Node) :
    (Throughput.read (Node.map entries).toJson).toOption
      = ((entries.get? "ReadCapacityUnits").bind int?).bind fun read =>
          ((entries.get? "WriteCapacityUnits").bind int?).map fun write => ⟨read, write⟩ := by
  refine Option.ext fun capacity => ?_
  rw [except_toOption_eq_some_iff, read_toJson_iff]
  constructor
  · rintro ⟨hread, hwrite⟩
    rw [hread, hwrite]
    rfl
  · intro h
    obtain ⟨_, hread, h⟩ := Option.bind_eq_some_iff.1 h
    obtain ⟨_, hwrite, rfl⟩ := Option.map_eq_some_iff.1 h
    exact ⟨hread, hwrite⟩

theorem LifecycleRule.reads_of_apart {rule : LifecycleRule}
    (h : ApartAt (BothInt i) [.key "ExpirationInDays"] a b)
    (hread : LifecycleRule.read a.toJson = .ok rule) : rule.expirationInDays = some i := by
  obtain ⟨entries, entries', rfl, rfl, hmem, hagrees⟩ := h
  obtain ⟨value, _, ⟨hvalue, -⟩, hget⟩ := exists_get?_entriesJson hmem hagrees
  obtain ⟨f, days, hf, hdays, rfl⟩ := build_append_eq_ok_iff.1 (build_of_record_eq_ok hread)
  obtain ⟨withStatus, _, hstatus, -, rfl⟩ := build_append_eq_ok_iff.1 hf
  obtain ⟨withId, _, hid, -, rfl⟩ := build_append_eq_ok_iff.1 hstatus
  obtain ⟨make, _, hmake, -, rfl⟩ := build_append_eq_ok_iff.1 hid
  obtain rfl := Except.ok.inj hmake
  rw [build_field_of_get? hget, optional_lenientInt64_of_int? hvalue] at hdays
  exact (Except.ok.inj hdays).symm

/-- Of rules that are read, the one with the days has the integer as its number. -/
theorem Lifecycle.reads_of_apart {index : Nat} {lifecycle : Lifecycle}
    (h : ApartAt (BothInt i) [.key "Rules", .item index, .key "ExpirationInDays"] a b)
    (hread : Lifecycle.read a.toJson = .ok lifecycle) :
    ∃ rule, lifecycle.rules[index]? = some rule ∧ rule.expirationInDays = some i := by
  obtain ⟨entries, entries', rfl, rfl, hmem, hagrees⟩ := h
  obtain ⟨_, _, ⟨items, items', rfl, rfl, hitems⟩, hget⟩ := exists_get?_entriesJson hmem hagrees
  obtain ⟨f, rules, hf, hrules, rfl⟩ := build_append_eq_ok_iff.1 (build_of_record_eq_ok hread)
  obtain rfl := Except.ok.inj hf
  rw [build_field_of_get? hget] at hrules
  obtain ⟨item, _, hapart, hitem⟩ := hitems.exists_getElem?
  have hjson : (itemsJson items)[index]? = some item.toJson := by
    rw [itemsJson_eq_map, List.getElem?_map, hitem, Option.map_some]
  rcases rel_cases (rel_getElem? (elements_eq_ok_iff.1 hrules) index) with
    ⟨hnone, -⟩ | ⟨json, rule, hsome, hrule, hreads⟩
  · exact nomatch hjson.symm.trans hnone
  · obtain rfl := Option.some.inj (hjson.symm.trans hsome)
    exact ⟨rule, hrule, LifecycleRule.reads_of_apart hapart hreads⟩

end

/-! ### Rules of buckets -/

/-- A mapping that can be read as a rule: its status is a single value, its name and prefix are
    texts where they are given, and its days are an integer where they are. -/
structure Node.IsRule (rule : Node) : Prop where
  status : ∃ node, rule.get? "Status" = some node ∧ node.scalar?.isSome = true
  texts : ∀ key ∈ ["Id", "Prefix"], ∀ node, rule.field? key = some node →
    ∃ text, node = .str text
  days : ∀ node, rule.field? "ExpirationInDays" = some node → node.int?.isSome = true

/-- All rules of a configuration can be read as rules. -/
def Node.HasRules (configuration : Node) : Prop :=
  ∃ rules, configuration.get? "Rules" = some (.seq rules) ∧ ∀ rule ∈ rules, rule.IsRule

/-- What has something under a key is a mapping. -/
theorem Node.exists_map_of_get? {node value : Node} {key : String}
    (h : node.get? key = some value) :
    ∃ entries : Entries Node, node = .map entries ∧ entries.get? key = some value := by
  cases node with
  | map entries => exact ⟨entries, rfl, h⟩
  | _ => exact nomatch h

/-- A field whose value may be `null` is read if it is left out, or what is given can be read. -/
theorem Fields.exists_reads_optional {α : Type} {read : Reader α} {entries : Entries Node}
    {name : String} (h : ∀ node, (Node.map entries).field? name = some node →
      ∃ a, read node.toJson = .ok a) :
    ∃ value, (field name (Reader.optional read) (some none)).Reads (entriesJson entries) value := by
  have hd := (sorted_entriesJson entries).distinct
  cases hget : entries.get? name with
  | none => exact ⟨none, reads_field_absent (by rw [get?_entriesJson, hget]; rfl) none⟩
  | some node =>
    have hjson : Entries.get? name (entriesJson entries) = some node.toJson := by
      rw [get?_entriesJson, hget, Option.map_some]
    -- The JSON of a number that is not finite is null as well.
    by_cases hnull : node.toJson = .null
    · exact ⟨none, reads_field hd hjson (by rw [hnull]; rfl) _⟩
    · have hgiven : node.isNull = false := by
        cases node with
        | null => exact absurd rfl hnull
        | _ => rfl
      have hfield : (Node.map entries).field? name = some node := by
        rw [field?_eq_filter]
        change (entries.get? name).filter _ = _
        rw [hget, Option.filter_some, hgiven]
        rfl
      obtain ⟨a, ha⟩ := h node hfield
      exact ⟨some a, reads_field hd hjson (by rw [optional_of_ne_null _ hnull, ha]; rfl) _⟩

theorem Node.IsRule.exists_read {rule : Node} (h : rule.IsRule) :
    ∃ value, LifecycleRule.read rule.toJson = .ok value := by
  obtain ⟨node, hnode, hscalar⟩ := h.status
  obtain ⟨entries, rfl, hstatus⟩ := exists_map_of_get? hnode
  have htext (key : String) (hkey : key ∈ ["Id", "Prefix"]) :
      ∃ value, (field key (Reader.optional Reader.text) (some none)).Reads (entriesJson entries)
        value :=
    exists_reads_optional fun node hnode => by
      obtain ⟨text, rfl⟩ := h.texts key hkey node hnode
      exact ⟨text, rfl⟩
  obtain ⟨id, hid⟩ := htext "Id" (by simp)
  obtain ⟨namePrefix, hprefix⟩ := htext "Prefix" (by simp)
  obtain ⟨days, hdays⟩ : ∃ value, (field "ExpirationInDays" (Reader.optional lenientInt64)
      (some none)).Reads (entriesJson entries) value :=
    exists_reads_optional fun node hnode => by
      obtain ⟨i, hi⟩ := Option.isSome_iff_exists.1 (h.days node hnode)
      exact ⟨i, lenientInt64_of_int? hi⟩
  have hget : Entries.get? "Status" (entriesJson entries) = some node.toJson := by
    rw [get?_entriesJson, hstatus, Option.map_some]
  have hread : lenientText node.toJson = .ok node.text :=
    ((lenient_toJson node).2.2 _).2 ⟨hscalar, rfl⟩
  exact ⟨_, record_eq_ok (sorted_entriesJson entries).distinct fun hd =>
    ((((reads_nothing LifecycleRule.mk _).append hid).required hd hget hread).append
      hprefix).append hdays⟩

theorem Reader.exists_elements {α : Type} {read : Reader α} {jsons : List Json}
    (h : ∀ json ∈ jsons, ∃ a, read json = .ok a) : ∃ values, elements read jsons = .ok values := by
  induction jsons with
  | nil => exact ⟨[], rfl⟩
  | cons json rest ih =>
    obtain ⟨hfirst, hrest⟩ := List.forall_mem_cons.1 h
    obtain ⟨a, ha⟩ := hfirst
    obtain ⟨values, hvalues⟩ := ih hrest
    exact ⟨a :: values, elements_eq_ok_iff.2 (.cons ha (elements_eq_ok_iff.1 hvalues))⟩

/-- A configuration is read if all of its rules are. -/
theorem Node.HasRules.exists_read {configuration : Node} (h : configuration.HasRules) :
    ∃ lifecycle, Lifecycle.read configuration.toJson = .ok lifecycle := by
  obtain ⟨items, hitems, hrules⟩ := h
  obtain ⟨entries, rfl, hget⟩ := exists_map_of_get? hitems
  obtain ⟨values, hvalues⟩ : ∃ values, elements LifecycleRule.read (itemsJson items) = .ok values :=
    exists_elements fun json hmem => by
      rw [itemsJson_eq_map] at hmem
      obtain ⟨rule, hrule, rfl⟩ := List.mem_map.1 hmem
      exact (hrules rule hrule).exists_read
  have hjson : Entries.get? "Rules" (entriesJson entries) = some (.arr (itemsJson items)) := by
    rw [get?_entriesJson, hget]
    rfl
  exact ⟨⟨values⟩, record_eq_ok (sorted_entriesJson entries).distinct fun hd =>
    (reads_nothing Lifecycle.mk _).optional hd hjson hvalues⟩

end SamTemplate
