import Mathlib.Data.List.Forall2
import SamTemplate.Node

/-!
# Trees in another order

The entries of a mapping have an order, that of the document, though it says
nothing. `Node.Reordered` relates trees that differ in the order of entries only,
at any level, and `Node.WellFormed` are the trees in which no mapping has a key
twice, as in every tree that is read from a document. On well-formed trees
(`Node.Alike`) all readings of a node are blind to the order:

* `Alike.text_eq`, `Alike.toJson_eq`: the text and the JSON of a node;
* `Alike.get?`, `Alike.call?`, `Alike.items`: what it holds, up to the order.
-/

namespace SamTemplate

/-- Pairs with the same key and related values. -/
def OnValues {α β : Type} (R : α → β → Prop) (a : String × α) (b : String × β) : Prop :=
  a.1 = b.1 ∧ R a.2 b.2

section

variable {α β γ δ : Type} {R : α → β → Prop} {S : γ → δ → Prop} {x : Option α} {y : Option β}

/-- Related options are both nothing or both something. -/
theorem rel_cases (h : Option.Rel R x y) :
    (x = none ∧ y = none) ∨ ∃ a b, x = some a ∧ y = some b ∧ R a b := by
  cases h with
  | none => exact .inl ⟨rfl, rfl⟩
  | some hab => exact .inr ⟨_, _, rfl, rfl, hab⟩

theorem rel_imp {S : α → β → Prop} (h : Option.Rel R x y) (hRS : ∀ a b, R a b → S a b) :
    Option.Rel S x y := by
  cases h with
  | none => exact .none
  | some hab => exact .some (hRS _ _ hab)

/-- Related options stay related when related values are made of related ones. -/
theorem rel_map {f : α → γ} {g : β → δ} (h : Option.Rel R x y)
    (hf : ∀ a b, R a b → S (f a) (g b)) : Option.Rel S (x.map f) (y.map g) := by
  cases h with
  | none => exact .none
  | some hab => exact .some (hf _ _ hab)

/-- Related options give the same when equal values are made of related ones. -/
theorem rel_map_eq {f : α → γ} {g : β → γ} (h : Option.Rel R x y)
    (hf : ∀ a b, R a b → f a = g b) : x.map f = y.map g := by
  cases h with
  | none => rfl
  | some hab => exact congrArg some (hf _ _ hab)

theorem rel_bind {f : α → Option γ} {g : β → Option δ} (h : Option.Rel R x y)
    (hf : ∀ a b, R a b → Option.Rel S (f a) (g b)) : Option.Rel S (x.bind f) (y.bind g) := by
  cases h with
  | none => exact .none
  | some hab => exact hf _ _ hab

theorem rel_bind_eq {f : α → Option γ} {g : β → Option γ} (h : Option.Rel R x y)
    (hf : ∀ a b, R a b → f a = g b) : x.bind f = y.bind g := by
  cases h with
  | none => rfl
  | some hab => exact hf _ _ hab

/-- A test that related values both pass or both fail keeps options related. -/
theorem rel_filter {p : α → Bool} {q : β → Bool} (h : Option.Rel R x y)
    (hp : ∀ a b, R a b → p a = q b) : Option.Rel R (x.filter p) (y.filter q) := by
  cases h with
  | none => exact .none
  | some hab =>
    rw [Option.filter_some, Option.filter_some, hp _ _ hab]
    split
    · exact .some hab
    · exact .none

theorem map_eq_of_forall₂ {f : α → γ} {g : β → γ} {l : List α} {l' : List β}
    (h : List.Forall₂ R l l') (hf : ∀ a b, R a b → f a = g b) : l.map f = l'.map g := by
  induction h with
  | nil => rfl
  | cons hab _ ih => rw [List.map_cons, List.map_cons, hf _ _ hab, ih]

theorem filterMap_eq_of_forall₂ {f : α → Option γ} {g : β → Option γ} {l : List α} {l' : List β}
    (h : List.Forall₂ R l l') (hf : ∀ a b, R a b → f a = g b) : l.filterMap f = l'.filterMap g := by
  induction h with
  | nil => rfl
  | cons hab _ ih => rw [List.filterMap_cons, List.filterMap_cons, hf _ _ hab, ih]

theorem rel_getD {a : α} {b : β} (h : Option.Rel R x y) (hab : R a b) :
    R (x.getD a) (y.getD b) := by
  cases h with
  | none => exact hab
  | some h => exact h

end

/-- Pairs with the same keys and equal values are the same pairs. -/
theorem forall₂_onValues_eq {α : Type} {l l' : List (String × α)} :
    List.Forall₂ (OnValues Eq) l l' ↔ l = l' := by
  have h : OnValues (Eq : α → α → Prop) = Eq := by
    funext a b
    exact propext Prod.ext_iff.symm
  rw [h, List.forall₂_eq_eq_eq]

namespace Entries

variable {α β : Type} {entries entries' : Entries α} {key : String} {value : α}

instance (entries : Entries α) : Decidable entries.Distinct :=
  inferInstanceAs (Decidable entries.keys.Nodup)

theorem get?_cons (pair : String × α) (rest : Entries α) (key : String) :
    get? key (pair :: rest) = if pair.1 = key then some pair.2 else get? key rest := rfl

/-- Without repeated keys a look-up finds what is there. -/
theorem get?_eq_some_iff (hd : Distinct entries) :
    get? key entries = some value ↔ (key, value) ∈ entries := by
  induction entries with
  | nil => simp [get?]
  | cons pair rest ih =>
    obtain ⟨k, v⟩ := pair
    obtain ⟨hk, hrest⟩ := List.nodup_cons.1 hd
    rw [get?_cons, List.mem_cons, Prod.mk.injEq]
    by_cases h : k = key
    · subst h
      have hnot : (k, value) ∉ rest := fun hmem => hk (List.mem_map_of_mem (f := (·.1)) hmem)
      simp [hnot, eq_comm]
    · simp [h, Ne.symm h, ih hrest]

/-- No order of entries repeats a key if one does not. -/
theorem Distinct.perm (hd : Distinct entries) (h : entries.Perm entries') : Distinct entries' :=
  (h.map Prod.fst).nodup_iff.1 hd

/-- A look-up does not depend on the order of entries. -/
theorem get?_of_perm (hd : Distinct entries) (h : entries.Perm entries') (key : String) :
    get? key entries = get? key entries' := by
  refine Option.ext fun value => ?_
  rw [get?_eq_some_iff hd, get?_eq_some_iff (hd.perm h), h.mem_iff]

/-- What entries have under a key, where the values under it are related in a way that may depend
    on the key. -/
theorem get?_of_keyed {P : String → α → β → Prop} {others : Entries β}
    (h : List.Forall₂ (fun a b => a.1 = b.1 ∧ P a.1 a.2 b.2) entries others) (key : String) :
    Option.Rel (P key) (get? key entries) (get? key others) := by
  induction h with
  | nil => exact .none
  | cons hpair _ ih =>
    rw [get?_cons, get?_cons, ← hpair.1]
    split
    · rename_i hkey
      exact .some (hkey ▸ hpair.2)
    · exact ih

theorem get?_of_forall₂ {R : α → β → Prop} {others : Entries β}
    (h : List.Forall₂ (OnValues R) entries others) (key : String) :
    Option.Rel R (get? key entries) (get? key others) :=
  get?_of_keyed (P := fun _ => R) h key

/-- The same keys with related values. -/
theorem forall₂_onValues {R : α → β → Prop} {others : Entries β} (hk : keys entries = keys others)
    (hv : List.Forall₂ R (entries.map (·.2)) (others.map (·.2))) :
    List.Forall₂ (OnValues R) entries others := by
  induction entries generalizing others with
  | nil => cases others with
    | nil => exact .nil
    | cons => exact nomatch hk
  | cons pair rest ih => cases others with
    | nil => exact nomatch hk
    | cons other others =>
      obtain ⟨hkey, hkeys⟩ := List.cons.inj hk
      obtain ⟨hvalue, hvalues⟩ := List.forall₂_cons.1 hv
      exact .cons ⟨hkey, hvalue⟩ (ih hkeys hvalues)

/-- Nothing is found under a key if and only if it is not among the keys. -/
theorem get?_eq_none_iff : get? key entries = none ↔ key ∉ keys entries := by
  induction entries with
  | nil => simp [get?, keys]
  | cons pair rest ih =>
    rw [get?_cons]
    by_cases h : pair.1 = key
    · simp [keys, h]
    · simpa [keys, h, Ne.symm h] using ih

/-- Some of the values of different keys, under their keys. -/
theorem Distinct.filterMap (hd : Distinct entries) {f : String × α → Option (String × β)}
    (hf : ∀ pair pair', f pair = some pair' → pair'.1 = pair.1) :
    Distinct (entries.filterMap f) := by
  induction entries with
  | nil => exact hd
  | cons pair rest ih =>
    obtain ⟨hk, hrest⟩ := List.nodup_cons.1 hd
    rw [List.filterMap_cons]
    cases he : f pair with
    | none => exact ih hrest
    | some pair' =>
      refine List.nodup_cons.2 ⟨fun hmem => hk ?_, ih hrest⟩
      obtain ⟨other', hother', hkey⟩ := List.mem_map.1 hmem
      obtain ⟨other, hother, hf'⟩ := List.mem_filterMap.1 hother'
      have hsame : other.1 = pair.1 := (hf _ _ hf').symm.trans (hkey.trans (hf _ _ he))
      exact List.mem_map.2 ⟨other, hother, hsame⟩

/-- Inserting keeps the values related, in a way that may depend on their keys. -/
theorem forall₂_insertSorted_keyed {P : String → α → β → Prop} {others : Entries β} {value' : β}
    (h : List.Forall₂ (fun a b => a.1 = b.1 ∧ P a.1 a.2 b.2) entries others)
    (hv : P key value value') :
    List.Forall₂ (fun a b => a.1 = b.1 ∧ P a.1 a.2 b.2) (insertSorted key value entries)
      (insertSorted key value' others) := by
  induction h with
  | nil => exact .cons ⟨rfl, hv⟩ .nil
  | @cons pair other rest rest' hpair hrest ih =>
    obtain ⟨other, value''⟩ := other
    obtain ⟨rfl, hvalue⟩ := hpair
    simp only [insertSorted]
    split
    · exact .cons ⟨rfl, hv⟩ (.cons ⟨rfl, hvalue⟩ hrest)
    · split
      · exact .cons ⟨rfl, hv⟩ hrest
      · exact .cons ⟨rfl, hvalue⟩ ih

theorem forall₂_insertSorted {R : α → β → Prop} {others : Entries β} {value' : β}
    (h : List.Forall₂ (OnValues R) entries others) (hv : R value value') :
    List.Forall₂ (OnValues R) (insertSorted key value entries)
      (insertSorted key value' others) :=
  forall₂_insertSorted_keyed (P := fun _ => R) h hv

end Entries

namespace Bindings

variable {α : Type} {pairs pairs' : Entries α}

/-- Of pairs with different keys each is bound. -/
theorem get?_insertAll (bindings : Bindings α) (hd : pairs.Distinct) (key : String) :
    (bindings.insertAll pairs).get? key = (pairs.get? key).or (bindings.get? key) := by
  induction pairs generalizing bindings with
  | nil => rfl
  | cons pair rest ih =>
    obtain ⟨hk, hrest⟩ := List.nodup_cons.1 hd
    change ((bindings.insert pair.1 pair.2).insertAll rest).get? key = _
    rw [ih _ hrest, get?_insert, Entries.get?_cons]
    by_cases h : pair.1 = key
    · subst h
      simp [Entries.get?_eq_none_iff.2 hk]
    · simp [h]

/-- Pairs with different keys can be bound in any order. -/
theorem insertAll_perm (bindings : Bindings α) (hd : pairs.Distinct) (hp : pairs.Perm pairs') :
    bindings.insertAll pairs = bindings.insertAll pairs' := by
  refine ext_get? fun key => ?_
  rw [get?_insertAll _ hd, get?_insertAll _ (hd.perm hp), Entries.get?_of_perm hd hp]

/-- Binding related pairs one after the other keeps the maps related. -/
theorem forall₂_insertAll {β : Type} {R : α → β → Prop} {bindings : Bindings α}
    {others : Bindings β} {pairs' : Entries β}
    (h : List.Forall₂ (OnValues R) bindings.entries others.entries)
    (hp : List.Forall₂ (OnValues R) pairs pairs') :
    List.Forall₂ (OnValues R) (bindings.insertAll pairs).entries
      (others.insertAll pairs').entries := by
  induction hp generalizing bindings others with
  | nil => exact h
  | @cons pair pair' _ _ hpair _ ih =>
    obtain ⟨key, value⟩ := pair
    obtain ⟨key', value'⟩ := pair'
    obtain ⟨rfl, hv⟩ := hpair
    exact ih (Entries.forall₂_insertSorted h hv)

end Bindings

/-- Related entries under the same keys are so in the order of the keys too. -/
theorem Entries.forall₂_inKeyOrder {α β : Type} {R : α → β → Prop} {entries : Entries α}
    {entries' : Entries β} (h : List.Forall₂ (OnValues R) entries entries') :
    List.Forall₂ (OnValues R) entries.inKeyOrder entries'.inKeyOrder :=
  Bindings.forall₂_insertAll .nil h

namespace Node

theorem itemsJson_eq_map (items : List Node) : itemsJson items = items.map toJson := by
  induction items with
  | nil => rfl
  | cons item rest ih => rw [itemsJson, ih, List.map_cons]

/-- The members that are made of a mapping are in the order of their names. -/
theorem sorted_entriesJson (entries : Entries Node) : (entriesJson entries).Sorted := by
  induction entries with
  | nil => exact List.Pairwise.nil
  | cons pair rest ih => exact Entries.sorted_insertSorted pair.1 pair.2.toJson ih

/-- Under each key a mapping and the members that are made of it have the same. -/
theorem get?_entriesJson (entries : Entries Node) (key : String) :
    Entries.get? key (entriesJson entries) = (entries.get? key).map toJson := by
  induction entries with
  | nil => rfl
  | cons pair rest ih =>
    obtain ⟨k, node⟩ := pair
    rw [entriesJson, Entries.get?_insertSorted, Entries.get?_cons, ih]
    split <;> rfl

/-- Two trees that differ only in the order of the entries of their mappings. -/
inductive Reordered : Node → Node → Prop
  | refl (node : Node) : Reordered node node
  /-- The items of a sequence stay in their order. -/
  | seq {items items' : List Node} : List.Forall₂ Reordered items items' →
      Reordered (.seq items) (.seq items')
  /-- The entries of a mapping may be in another order. -/
  | map {entries permuted entries' : Entries Node} : entries.Perm permuted →
      permuted.keys = entries'.keys →
      List.Forall₂ Reordered (permuted.map (·.2)) (entries'.map (·.2)) →
      Reordered (.map entries) (.map entries')

/-- Two entries that change places. -/
theorem Reordered.swap {a b a' b' : String × Node} (ha : OnValues Reordered a a')
    (hb : OnValues Reordered b b') : Reordered (.map [a, b]) (.map [b', a']) :=
  .map (.swap b a []) (by simp [Entries.keys, ha.1, hb.1]) (.cons hb.2 (.cons ha.2 .nil))

/-- No mapping in a tree has a key twice. -/
inductive WellFormed : Node → Prop
  | null : WellFormed .null
  | bool (value : Bool) : WellFormed (.bool value)
  | int (value : Int64) : WellFormed (.int value)
  | float (value : Binary64) : WellFormed (.float value)
  | str (text : String) : WellFormed (.str text)
  | seq {items : List Node} : (∀ item ∈ items, WellFormed item) → WellFormed (.seq items)
  | map {entries : Entries Node} : entries.Distinct →
      (∀ entry ∈ entries, WellFormed entry.2) → WellFormed (.map entries)

attribute [simp] WellFormed.null WellFormed.bool WellFormed.int WellFormed.float WellFormed.str

@[simp]
theorem wellFormed_seq {items : List Node} :
    (Node.seq items).WellFormed ↔ ∀ item ∈ items, item.WellFormed :=
  ⟨fun | .seq h => h, .seq⟩

@[simp]
theorem wellFormed_map {entries : Entries Node} :
    (Node.map entries).WellFormed ↔ entries.Distinct ∧ ∀ entry ∈ entries, entry.2.WellFormed :=
  ⟨fun | .map hd h => ⟨hd, h⟩, fun h => .map h.1 h.2⟩

@[simp]
theorem wellFormed_call {name : String} {operand : Node} :
    (call name operand).WellFormed ↔ operand.WellFormed := by
  simp [call, Entries.Distinct, Entries.keys]

/-- Two well-formed trees that differ only in the order of entries. -/
structure Alike (a b : Node) : Prop where
  wellFormed : a.WellFormed
  reordered : a.Reordered b

namespace Alike

variable {a b : Node}

theorem refl (h : a.WellFormed) : Alike a a := ⟨h, .refl a⟩

/-- Entries in another order, with values that are alike. -/
def Shuffled (entries entries' : Entries Node) : Prop :=
  entries.Distinct ∧ ∃ permuted, entries.Perm permuted ∧
    List.Forall₂ (OnValues Alike) permuted entries'

/-- What trees that are alike look like. -/
inductive View : Node → Node → Prop
  | null : View .null .null
  | bool (value : Bool) : View (.bool value) (.bool value)
  | int (value : Int64) : View (.int value) (.int value)
  | float (value : Binary64) : View (.float value) (.float value)
  | str (text : String) : View (.str text) (.str text)
  | seq {items items' : List Node} : List.Forall₂ Alike items items' →
      View (.seq items) (.seq items')
  | map {entries entries' : Entries Node} : Shuffled entries entries' →
      View (.map entries) (.map entries')

theorem forall₂_of_values {entries entries' : Entries Node} (hk : entries.keys = entries'.keys)
    (hv : List.Forall₂ Reordered (entries.map (·.2)) (entries'.map (·.2)))
    (hw : ∀ entry ∈ entries, entry.2.WellFormed) :
    List.Forall₂ (OnValues Alike) entries entries' :=
  ((List.forall₂_and_left _ _).2 ⟨hw, Entries.forall₂_onValues hk hv⟩).imp fun _ _ h =>
    ⟨h.2.1, h.1, h.2.2⟩

/-- Trees that are alike have one of these pairs of shapes. -/
theorem view (h : Alike a b) : View a b := by
  obtain ⟨hw, hr⟩ := h
  cases hr with
  | refl => cases hw with
    | seq hi => exact .seq (List.forall₂_same.2 fun item hmem => .refl (hi item hmem))
    | @map entries hd he =>
      exact .map ⟨hd, entries, .refl _, List.forall₂_same.2 fun entry hmem =>
        ⟨rfl, .refl (he entry hmem)⟩⟩
    | null => exact .null
    | bool value => exact .bool value
    | int value => exact .int value
    | float value => exact .float value
    | str text => exact .str text
  | seq hi => cases hw with
    | seq hw =>
      refine .seq ((List.forall₂_and_left _ _).2 ⟨hw, hi⟩ |>.imp fun _ _ h => ⟨h.1, h.2⟩)
  | map hp hk hv => cases hw with
    | map hd he =>
      exact .map ⟨hd, _, hp, forall₂_of_values hk hv fun entry hmem =>
        he entry (hp.mem_iff.2 hmem)⟩

theorem Shuffled.wellFormed {entries entries' : Entries Node} (h : Shuffled entries entries') :
    (Node.map entries).WellFormed := by
  obtain ⟨hd, permuted, hp, he⟩ := h
  refine .map hd fun entry hmem => ?_
  have hall : ∀ entry ∈ permuted, entry.2.WellFormed := by
    clear hp
    induction he with
    | nil => simp
    | cons hpair _ ih => exact List.forall_mem_cons.2 ⟨hpair.2.wellFormed, ih⟩
  exact hall entry (hp.mem_iff.1 hmem)

/-- What looks alike is alike. -/
theorem View.alike (h : View a b) : Alike a b := by
  cases h with
  | seq hi =>
    refine ⟨.seq ?_, .seq (hi.imp fun _ _ h => h.reordered)⟩
    induction hi with
    | nil => simp
    | cons hab _ ih => exact List.forall_mem_cons.2 ⟨hab.wellFormed, ih⟩
  | map hs =>
    obtain ⟨-, permuted, hp, he⟩ := id hs
    refine ⟨hs.wellFormed, .map hp (map_eq_of_forall₂ he fun _ _ h => h.1) ?_⟩
    exact List.forall₂_map_left_iff.2 (List.forall₂_map_right_iff.2
      (he.imp fun _ _ h => h.2.reordered))
  | _ => exact .refl (by constructor)

/-! ### Readings of a node -/

theorem isNull_eq (h : Alike a b) : a.isNull = b.isNull := by
  cases h.view <;> rfl

theorem int?_eq (h : Alike a b) : a.int? = b.int? := by
  cases h.view <;> rfl

/-- The JSON of entries does not depend on their order. -/
theorem entriesJson_eq {entries permuted entries' : Entries Node} (hd : entries.Distinct)
    (hp : entries.Perm permuted)
    (h : List.Forall₂ (OnValues fun a b => a.toJson = b.toJson) permuted entries') :
    entriesJson entries = entriesJson entries' := by
  suffices hb : (⟨entriesJson entries, sorted_entriesJson entries⟩ : Bindings Json)
      = ⟨entriesJson entries', sorted_entriesJson entries'⟩ from congrArg Bindings.entries hb
  refine Bindings.ext_get? fun key => ?_
  change Entries.get? key (entriesJson entries) = Entries.get? key (entriesJson entries')
  rw [get?_entriesJson, get?_entriesJson, Entries.get?_of_perm hd hp]
  exact rel_map_eq (Entries.get?_of_forall₂ h key) fun _ _ h => h

theorem toJson_eq (h : Alike a b) : a.toJson = b.toJson := by
  have hw := h.wellFormed
  induction hw generalizing b with
  | seq _ ih => cases h.view with
    | seq hi =>
      rw [toJson, toJson, itemsJson_eq_map, itemsJson_eq_map]
      have hitems := ((List.forall₂_and_left _ _).2 ⟨ih, hi⟩).imp fun _ _ h => h.1 h.2
      exact congrArg Json.arr (map_eq_of_forall₂ hitems fun _ _ h => h)
  | map _ _ ih => cases h.view with
    | map hs =>
      obtain ⟨hd, permuted, hp, he⟩ := hs
      rw [toJson, toJson]
      have hjson : ∀ entry ∈ permuted, ∀ b, Alike entry.2 b → entry.2.toJson = b.toJson :=
        fun entry hmem _ => ih entry (hp.mem_iff.2 hmem)
      exact congrArg Json.obj (entriesJson_eq hd hp
        (((List.forall₂_and_left _ _).2 ⟨hjson, he⟩).imp fun _ _ h => ⟨h.2.1, h.1 _ h.2.2⟩))
  | _ => cases h.view; rfl

theorem text_eq (h : Alike a b) : a.text = b.text := by
  have hj := h.toJson_eq
  cases h.view with
  | seq => rw [text, text, hj]
  | map => rw [text, text, hj]
  | _ => rfl

/-! ### What a node holds -/

theorem Shuffled.get? {entries entries' : Entries Node} (h : Shuffled entries entries')
    (key : String) : Option.Rel Alike (entries.get? key) (entries'.get? key) := by
  obtain ⟨hd, permuted, hp, he⟩ := h
  rw [Entries.get?_of_perm hd hp]
  exact Entries.get?_of_forall₂ he key

theorem Shuffled.given? {entries entries' : Entries Node} (h : Shuffled entries entries')
    (key : String) : Option.Rel Alike (given? entries key) (given? entries' key) :=
  rel_filter (h.get? key) fun _ _ h => by rw [h.isNull_eq]

/-- Put in the order of the keys, the entries are in the same order. -/
theorem Shuffled.inKeyOrder {entries entries' : Entries Node} (h : Shuffled entries entries') :
    List.Forall₂ (OnValues Alike) entries.inKeyOrder entries'.inKeyOrder := by
  obtain ⟨hd, permuted, hp, he⟩ := h
  rw [Entries.inKeyOrder, Bindings.ofList, Bindings.insertAll_perm _ hd hp]
  exact Entries.forall₂_inKeyOrder he

/-- What some values give under their keys. -/
theorem Shuffled.ofList_eq {β : Type} {f g : Node → Option β} {entries entries' : Entries Node}
    (h : Shuffled entries entries') (hfg : ∀ a b, Alike a b → f a = g b) :
    Bindings.ofList (entries.filterMap fun (key, value) => (f value).map (key, ·))
      = .ofList (entries'.filterMap fun (key, value) => (g value).map (key, ·)) := by
  obtain ⟨hd, permuted, hp, he⟩ := h
  have hkey : ∀ (entry : String × Node) (value : String × β),
      (f entry.2).map (entry.1, ·) = some value → value.1 = entry.1 := by
    rintro entry value hv
    obtain ⟨_, -, rfl⟩ := Option.map_eq_some_iff.1 hv
    rfl
  rw [Bindings.ofList, Bindings.insertAll_perm _ (hd.filterMap hkey) (hp.filterMap _),
    filterMap_eq_of_forall₂ he fun a b hab => by rw [hab.1, hfg _ _ hab.2]]
  rfl

theorem entries? (h : Alike a b) : Option.Rel Shuffled a.entries? b.entries? := by
  cases h.view with
  | map hs => exact .some hs
  | _ => exact .none

theorem get? (h : Alike a b) (key : String) : Option.Rel Alike (a.get? key) (b.get? key) :=
  rel_bind h.entries? fun _ _ hs => hs.get? key

theorem field? (h : Alike a b) (key : String) : Option.Rel Alike (a.field? key) (b.field? key) :=
  rel_bind h.entries? fun _ _ hs => hs.given? key

/-- Trees that are alike call the same function on operands that are alike, or none. -/
theorem call? (h : Alike a b) : Option.Rel (OnValues Alike) a.call? b.call? := by
  cases h.view with
  | map hs =>
    obtain ⟨-, permuted, hp, he⟩ := hs
    rename_i entries entries'
    -- There is one entry in all of them or in none.
    have hlen : entries.length = entries'.length := hp.length_eq.trans he.length_eq
    match entries, entries' with
    | [], [] => exact .none
    | [pair], [pair'] =>
      obtain rfl := List.singleton_perm.1 hp
      exact .some (List.forall₂_cons.1 he).1
    | [], _ :: _ | [_], [] | [_], _ :: _ :: _ | _ :: _ :: _, [] | _ :: _ :: _, [_] =>
      simp at hlen
    | _ :: _ :: _, _ :: _ :: _ => exact .none
  | _ => exact .none

/-- Trees that are alike have items that are alike, one by one. -/
theorem items (h : Alike a b) : List.Forall₂ Alike a.items b.items := by
  have hself := h
  cases h.view with
  | null => exact .nil
  | seq hi => exact hi
  | _ => exact .cons hself .nil

theorem texts_eq (h : Alike a b) : a.texts = b.texts :=
  map_eq_of_forall₂ h.items fun _ _ h => h.text_eq

end Alike

end Node

end SamTemplate
