import Mathlib.Data.List.Perm.Basic
import SamTemplate.Output.Record
import SamTemplate.Proofs.EmittedFunctions
import SamTemplate.Proofs.JsonParsing

/-!
# The order of members

The members of an object have an order, that of the text, which says nothing to a reader:
what can be read is read as the same from an object whose members come in another order, at
any level (`Json.Reordered`). Only the misfit that is told about depends on it.

* `Reader.Steady`: a reader whose values do not depend on the order of members. Each way to
  put a reader together keeps it so, the fields of a record too (`Fields.Steady`);
* `Json.Exact.reordered_inOrder`: in the order of names, a value is one of those that differ
  in the order of members only.
-/

namespace SamTemplate

/-! ### Values in another order -/

namespace Json

/-- Two values that differ only in the order of the members of objects, none of which has two
    members of one name. -/
inductive Reordered : Json → Json → Prop
  | null : Reordered .null .null
  | bool (value : Bool) : Reordered (.bool value) (.bool value)
  | int (value : Int) : Reordered (.int value) (.int value)
  | float (value : Binary64) : Reordered (.float value) (.float value)
  | str (value : String) : Reordered (.str value) (.str value)
  /-- The elements of a list stay in their order. -/
  | arr {elements elements' : List Json} : List.Forall₂ Reordered elements elements' →
      Reordered (.arr elements) (.arr elements')
  /-- The members of an object may be in another order. -/
  | obj {members permuted members' : List (String × Json)} : Entries.Distinct members →
      members.Perm permuted → Entries.keys permuted = Entries.keys members' →
      List.Forall₂ Reordered (permuted.map (·.2)) (members'.map (·.2)) →
      Reordered (.obj members) (.obj members')

/-- Members of different names in another order, with reordered values. -/
def Shuffled (members members' : Entries Json) : Prop :=
  members.Distinct ∧ ∃ permuted, members.Perm permuted ∧
    List.Forall₂ (OnValues Reordered) permuted members'

/-- Objects are reordered as their members are shuffled. -/
theorem reordered_obj {members members' : Entries Json} :
    (obj members).Reordered (obj members') ↔ Shuffled members members' := by
  constructor
  · rintro (_ | _ | _ | _ | _ | _ | ⟨hd, hp, hk, hv⟩)
    exact ⟨hd, _, hp, Entries.forall₂_onValues hk hv⟩
  · rintro ⟨hd, permuted, hp, he⟩
    refine .obj hd hp (map_eq_of_forall₂ he fun _ _ h => h.1) ?_
    exact List.forall₂_map_left_iff.2 (List.forall₂_map_right_iff.2 (he.imp fun _ _ h => h.2))

namespace Shuffled

variable {members members' : Entries Json} {name : String}

/-- Under each name there is the same on both sides, reordered. -/
theorem get? (h : Shuffled members members') (name : String) :
    Option.Rel Reordered (members.get? name) (members'.get? name) := by
  obtain ⟨hd, permuted, hp, he⟩ := h
  rw [Entries.get?_of_perm hd hp]
  exact Entries.get?_of_forall₂ he name

/-- What holds of all members holds of them in another order, if it does not depend on the order
    within them. -/
theorem forall_mem {P : String × Json → Prop} (h : Shuffled members members')
    (hP : ∀ name json json', json.Reordered json' → P (name, json) → P (name, json'))
    (hall : ∀ member ∈ members, P member) : ∀ member ∈ members', P member := by
  obtain ⟨-, permuted, hp, he⟩ := h
  -- The order changes first, then the members one by one.
  replace hall : ∀ member ∈ permuted, P member := fun member hmem => hall member (hp.mem_iff.2 hmem)
  clear hp
  induction he with
  | nil => exact hall
  | @cons member member' _ _ hmember _ ih =>
    obtain ⟨hfirst, hrest⟩ := List.forall_mem_cons.1 hall
    refine List.forall_mem_cons.2 ⟨?_, ih hrest⟩
    obtain ⟨name, json⟩ := member
    obtain ⟨name', json'⟩ := member'
    obtain ⟨rfl, hjson⟩ := hmember
    exact hP name json json' hjson hfirst

/-- What is kept by its name is kept on both sides. -/
theorem filter (h : Shuffled members members') (p : String → Bool) :
    Shuffled (members.filter fun member => p member.1)
      (members'.filter fun member => p member.1) := by
  obtain ⟨hd, permuted, hp, he⟩ := h
  refine ⟨hd.sublist (List.filter_sublist.map _), _, hp.filter _, ?_⟩
  refine List.rel_filter (fun member member' hmember => ?_) he
  change p member.1 = true ↔ p member'.1 = true
  rw [hmember.1]

end Shuffled

/-- The elements of a list are put in order one by one. -/
theorem elementsInOrder_eq_map (elements : List Json) :
    elementsInOrder elements = elements.map inOrder := by
  induction elements with
  | nil => rfl
  | cons element rest ih => rw [elementsInOrder, ih, List.map_cons]

/-- So are the values of members, before the members themselves are. -/
theorem membersInOrder_eq_map (members : List (String × Json)) :
    membersInOrder members = members.map fun member => (member.1, member.2.inOrder) := by
  induction members with
  | nil => rfl
  | cons member rest ih => rw [membersInOrder, ih, List.map_cons]

/-- A value goes with itself, if no object in it has two members of one name. -/
theorem Exact.reordered {value : Json} (h : value.Exact) : value.Reordered value := by
  induction h with
  | null => exact .null
  | bool value => exact .bool value
  | int => exact .int _
  | str value => exact .str value
  | arr _ ih => exact .arr (List.forall₂_same.2 ih)
  | obj hd _ ih =>
    exact reordered_obj.2 ⟨hd, _, .refl _, List.forall₂_same.2 fun member hmem => ⟨rfl, ih _ hmem⟩⟩

/-- In the order of names, a value is as it was but for the order of members. -/
theorem Exact.reordered_inOrder {value : Json} (h : value.Exact) :
    value.Reordered value.inOrder := by
  induction h with
  | null => exact .null
  | bool value => exact .bool value
  | int => exact .int _
  | str value => exact .str value
  | @arr elements _ ih =>
    rw [inOrder, elementsInOrder_eq_map]
    exact .arr (List.forall₂_map_right_iff.2 (List.forall₂_same.2 ih))
  | @obj members hd _ ih =>
    rw [inOrder, membersInOrder_eq_map]
    have hkeys : Entries.keys (members.map fun member => (member.1, member.2.inOrder))
        = Entries.keys members := List.map_map
    have hmembers : List.Forall₂ (flip (OnValues Reordered))
        (members.map fun member => (member.1, member.2.inOrder)) members :=
      List.forall₂_map_left_iff.2 (List.forall₂_same.2 fun member hmem => ⟨rfl, ih member hmem⟩)
    have hd' : Entries.Distinct (members.map fun member => (member.1, member.2.inOrder)) := by
      rw [Entries.Distinct, hkeys]
      exact hd
    -- The members are put in order after their values, and can be put in order before them.
    have hperm := Bindings.entries_ofList_perm hd'
    obtain ⟨permuted, hpermuted, hp⟩ := List.perm_comp_forall₂ hperm hmembers
    exact reordered_obj.2 ⟨hd, permuted, hp.symm, hpermuted.flip⟩

end Json

/-! ### Readers -/

theorem except_map_eq_ok_iff {ε α β : Type} {x : Except ε α} {f : α → β} {b : β} :
    x.map f = .ok b ↔ ∃ a, x = .ok a ∧ f a = b := by
  cases x <;> simp [Except.map]

section

variable {α β γ : Type} {R : α → β → Prop} {P : α → γ → Prop} {Q : β → γ → Prop}

/-- What goes along with a list goes along with another one that goes along with it. -/
theorem forall₂_of_forall₂ {l : List α} {l' : List β} {m : List γ} (hR : List.Forall₂ R l l')
    (hP : List.Forall₂ P l m) (h : ∀ a b c, R a b → P a c → Q b c) : List.Forall₂ Q l' m := by
  induction hR generalizing m with
  | nil => cases hP; exact .nil
  | cons hab _ ih => cases hP with
    | cons hac hrest => exact .cons (h _ _ _ hab hac) (ih hrest)

/-- Two lists that go along with each other do so at each place. -/
theorem rel_getElem? {l : List α} {l' : List β} (h : List.Forall₂ R l l') (place : Nat) :
    Option.Rel R l[place]? l'[place]? := by
  induction h generalizing place with
  | nil => exact .none
  | cons hab _ ih => cases place with
    | zero => exact .some hab
    | succ place => exact ih place

end

namespace Reader

variable {α β : Type} {read : Reader α}

/-- A reader whose values do not depend on the order of members. -/
def Steady (read : Reader α) : Prop :=
  ∀ ⦃json json' : Json⦄, json.Reordered json' → ∀ ⦃a⦄, read json = .ok a → read json' = .ok a

/-- A reader of neither lists nor objects. -/
theorem steady_of_single (harr : ∀ elements a, read (.arr elements) ≠ .ok a)
    (hobj : ∀ members a, read (.obj members) ≠ .ok a) : Steady read := by
  intro json json' hr a ha
  cases hr with
  | arr => exact absurd ha (harr _ a)
  | obj => exact absurd ha (hobj _ a)
  | _ => exact ha

theorem steady_text : Steady text := steady_of_single (fun _ _ => nofun) fun _ _ => nofun

theorem steady_bool : Steady bool := steady_of_single (fun _ _ => nofun) fun _ _ => nofun

theorem steady_int64 : Steady int64 := steady_of_single (fun _ _ => nofun) fun _ _ => nofun

theorem steady_lenientText : Steady lenientText :=
  steady_of_single (fun _ _ => nofun) fun _ _ => nofun

theorem steady_lenientInt64 : Steady lenientInt64 :=
  steady_of_single (fun _ _ => nofun) fun _ _ => nofun

/-- What is made of the value that is read does not depend on the order either. -/
theorem Steady.map (h : Steady read) (f : α → β) : Steady fun json => (read json).map f := by
  intro json json' hr b hb
  obtain ⟨a, ha, hab⟩ := except_map_eq_ok_iff.1 hb
  exact except_map_eq_ok_iff.2 ⟨a, h hr ha, hab⟩

/-- A value that may be null is read as the value if it is not. -/
theorem Steady.optional (h : Steady read) : Steady (optional read) := by
  intro json json' hr a ha
  -- Null is reordered to null alone, and anything else to something that is not null.
  cases hr with
  | null => exact ha
  | bool value => exact h.map some (.bool value) ha
  | int value => exact h.map some (.int value) ha
  | float value => exact h.map some (.float value) ha
  | str value => exact h.map some (.str value) ha
  | arr helements => exact h.map some (.arr helements) ha
  | obj hd hp hk hv => exact h.map some (.obj hd hp hk hv) ha

/-- A list is read if each element is, to a list of what they are read to. -/
theorem elements_eq_ok_iff {jsons : List Json} {values : List α} :
    elements read jsons = .ok values
      ↔ List.Forall₂ (fun json a => read json = .ok a) jsons values := by
  induction jsons generalizing values with
  | nil => simp [elements, eq_comm]
  | cons json rest ih =>
    simp only [elements, except_bind_eq_ok_iff, ih, List.forall₂_cons_left_iff]
    simp [pure, Except.pure, @eq_comm _ values]

/-- So are the values of members, under their names. -/
theorem values_eq_ok_iff {members : Entries Json} {pairs : Entries α} :
    values read members = .ok pairs
      ↔ List.Forall₂ (OnValues fun json a => read json = .ok a) members pairs := by
  induction members generalizing pairs with
  | nil => simp [values, eq_comm]
  | cons member rest ih =>
    simp only [values, except_bind_eq_ok_iff, ih, List.forall₂_cons_left_iff]
    simp [pure, Except.pure, OnValues, @eq_comm _ pairs]

/-- The elements of a list keep their order, so each is read as before. -/
theorem Steady.list (h : Steady read) : Steady (list read) := by
  intro json json' hr values hvalues
  cases hr with
  | arr helements =>
    refine elements_eq_ok_iff.2 ?_
    exact forall₂_of_forall₂ helements (elements_eq_ok_iff.1 hvalues) fun _ _ _ hr ha => h hr ha
  | _ => cases hvalues

/-- A map has its keys in order, so that of the members does not show in it. -/
theorem Steady.bindings (h : Steady read) : Steady (bindings read) := by
  intro json json' hr map hmap
  cases hr with
  | @obj members permuted members' hd hp hk hv =>
    obtain ⟨pairs, hpairs, rfl⟩ := except_map_eq_ok_iff.1 hmap
    -- The pairs come in another order, which does not matter to the map.
    obtain ⟨pairs', hpairs', hperm⟩ :=
      List.perm_comp_forall₂ hp.symm (values_eq_ok_iff.1 hpairs)
    have hkeys : Entries.keys permuted = Entries.keys pairs' :=
      map_eq_of_forall₂ hpairs' fun _ _ h => h.1
    have hd' : Entries.Distinct pairs' := by
      rw [Entries.Distinct, ← hkeys]
      exact hd.perm hp
    refine except_map_eq_ok_iff.2 ⟨pairs', values_eq_ok_iff.2 ?_, ?_⟩
    · exact forall₂_of_forall₂ (Entries.forall₂_onValues hk hv) hpairs' fun _ _ _ hr ha =>
        ⟨hr.1.symm.trans ha.1, h hr.2 ha.2⟩
    · exact Bindings.insertAll_perm _ hd' hperm
  | _ => cases hmap

end Reader

/-! ### Records -/

namespace Fields

variable {α β : Type} {name : String} {read : Reader α} {fields : Fields (α → β)}

/-- Fields whose values do not depend on the order of members. -/
structure Steady (fields : Fields α) : Prop where
  misfit : ∀ {name : String} {json json' : Json}, json.Reordered json' →
    fields.misfit? name json = none → fields.misfit? name json' = none
  build : ∀ {place : Nat} {source source' : Source},
    (∀ place name, Option.Rel Json.Reordered (source.value? place name)
      (source'.value? place name)) →
    ∀ {a}, fields.build place source = .ok a → fields.build place source' = .ok a

theorem steady_nothing (a : α) : (nothing a).Steady := ⟨fun _ _ => rfl, fun _ _ h => h⟩

/-- Fields that are read one after another are each looked up for themselves. -/
theorem Steady.append {second : Fields α} (hf : fields.Steady) (hs : second.Steady) :
    (fields.append second).Steady := by
  constructor
  · intro name json json' hr hnone
    obtain ⟨hfirst, hsecond⟩ := Option.or_eq_none_iff.1 hnone
    exact Option.or_eq_none_iff.2 ⟨hf.misfit hr hfirst, hs.misfit hr hsecond⟩
  · intro place source source' hsource b hb
    obtain ⟨f, hbf, hb⟩ := except_bind_eq_ok_iff.1 hb
    obtain ⟨a, hba, hb⟩ := except_bind_eq_ok_iff.1 hb
    refine except_bind_eq_ok_iff.2 ⟨f, hf.build hsource hbf, ?_⟩
    exact except_bind_eq_ok_iff.2 ⟨a, hs.build hsource hba, hb⟩

/-- A field is looked up by its name, or by its place where a list stands for a record. -/
theorem steady_field (name : String) (h : read.Steady) (fallback : Option α) :
    (field name read fallback).Steady := by
  constructor
  · intro other json json' hr hnone
    simp only [field] at hnone ⊢
    by_cases hname : other = name
    · rw [if_pos hname] at hnone ⊢
      cases hread : read json with
      | ok a => rw [h hr hread]
      | error misfit => simp [hread] at hnone
    · exact if_neg hname
  · intro place source source' hsource a ha
    simp only [field] at ha ⊢
    rcases rel_cases (hsource place name) with ⟨hnone, hnone'⟩ | ⟨json, json', hjson, hjson', hr⟩
    · -- What is missing on one side is missing on the other, and has the same fallback.
      simp only [hnone] at ha
      simp only [hnone']
      cases fallback with
      | none => cases ha
      | some value => exact ha
    · simp only [hjson] at ha
      simp only [hjson']
      exact h hr ha

theorem Steady.required (hf : fields.Steady) (h : read.Steady) :
    (fields.required name read).Steady :=
  hf.append (steady_field name h none)

theorem Steady.optional (hf : fields.Steady) (h : read.Steady) {fallback : α} :
    (fields.optional name read fallback).Steady :=
  hf.append (steady_field name h (some fallback))

end Fields

namespace Reader

variable {α : Type}

/-- A record is read from its fields. No member may be a misfit, of which the order of
    members decides only which one is told about. -/
theorem steady_record {fields : Fields α} (h : fields.Steady) (stage : Stage) (what : String) :
    Steady (record stage what fields) := by
  intro json json' hr a ha
  cases hr with
  | arr helements =>
    obtain ⟨value, hvalue, hrest⟩ := except_bind_eq_ok_iff.1 ha
    refine except_bind_eq_ok_iff.2 ⟨value, h.build (fun place _ => rel_getElem? helements place)
      hvalue, ?_⟩
    rwa [← helements.length_eq]
  | @obj members permuted members' hd hp hk hv =>
    have hs := Json.reordered_obj.1 (.obj hd hp hk hv)
    rw [record] at ha ⊢
    split at ha
    · cases ha
    · rename_i hfits
      -- All members are looked at, so that there is no misfit in any order.
      have hfits' : (members'.findSome? fun member => fields.misfit? member.1 member.2) = none :=
        List.findSome?_eq_none_iff.2 (hs.forall_mem (fun _ _ _ => h.misfit)
          (List.findSome?_eq_none_iff.1 hfits))
      split
      · rename_i hmisfit
        exact absurd (hfits'.symm.trans hmisfit) (Option.some_ne_none _).symm
      · exact h.build (fun _ name => hs.get? name) ha
  | _ => cases ha

/-- A shape is told by its tag, wherever that stands among the members; what is read
    is the rest of them. -/
theorem steady_shaped {tag what : String} {shapes : List (String × Reader α)}
    (h : ∀ shape ∈ shapes, Steady shape.2) : Steady (shaped tag what shapes) := by
  intro json json' hr a ha
  have hshape {name : String} {read : Reader α} (hlookup : shapes.lookup name = some read) :
      Steady read := by
    obtain ⟨_, _, rfl, -⟩ := List.lookup_eq_some_iff.1 hlookup
    exact h _ (List.mem_append_right _ List.mem_cons_self)
  cases hr with
  | arr helements =>
    -- A list has its tag in front, which is a text and so the same on both sides.
    cases helements with
    | nil => exact ha
    | cons hfirst hrest =>
      simp only [shaped] at ha ⊢
      cases hfirst with
      | str name =>
        cases hlookup : shapes.lookup name with
        | none => simp only [hlookup, reduceCtorEq] at ha
        | some read =>
          simp only [hlookup] at ha ⊢
          exact hshape hlookup (.arr hrest) ha
      | _ => cases ha
  | @obj members permuted members' hd hp hk hv =>
    have hs := Json.reordered_obj.1 (.obj hd hp hk hv)
    simp only [shaped] at ha ⊢
    rcases rel_cases (hs.get? tag) with ⟨hnone, hnone'⟩ | ⟨first, first', hfirst, hfirst', hr⟩
    · simp only [hnone, reduceCtorEq] at ha
    · simp only [hfirst] at ha
      simp only [hfirst']
      cases hr with
      | str name =>
        cases hlookup : shapes.lookup name with
        | none => simp only [hlookup, reduceCtorEq] at ha
        | some read =>
          simp only [hlookup] at ha ⊢
          exact hshape hlookup (Json.reordered_obj.2 (hs.filter (fun name => name ≠ tag))) ha
      | _ => cases ha
  | _ => cases ha

end Reader

end SamTemplate
