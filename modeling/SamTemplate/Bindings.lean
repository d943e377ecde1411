import SamTemplate.Entries

/-!
# Bindings

A finite map from texts, kept in the order of its keys: texts are ordered
character by character, by code point. Two maps with the same values under the
same keys are therefore equal (`Bindings.ext_get?`), however they were built.
-/

namespace SamTemplate

namespace Entries

variable {α : Type}

/-- Writes a pair into entries that are in the order of their keys, and keeps
    them so. -/
def insertSorted (key : String) (value : α) : Entries α → Entries α
  | [] => [(key, value)]
  | (k, v) :: rest =>
    if key < k then (key, value) :: (k, v) :: rest
    else if k = key then (key, value) :: rest
    else (k, v) :: insertSorted key value rest

/-- The keys increase strictly. -/
def Sorted (entries : Entries α) : Prop := entries.Pairwise fun a b => a.1 < b.1

instance (entries : Entries α) : Decidable (Sorted entries) :=
  inferInstanceAs (Decidable (entries.Pairwise fun a b => a.1 < b.1))

/-- Two texts are ordered one way or the other, or equal. -/
theorem lt_or_eq_or_gt (a b : String) : a < b ∨ a = b ∨ b < a := by
  rcases Classical.em (a < b) with h | h
  · exact .inl h
  · rcases Classical.em (b < a) with h' | h'
    · exact .inr (.inr h')
    · exact .inr (.inl (String.le_antisymm (String.not_lt.1 h') (String.not_lt.1 h)))

theorem mem_insertSorted {key : String} {value : α} {pair : String × α} {entries : Entries α}
    (h : pair ∈ insertSorted key value entries) : pair = (key, value) ∨ pair ∈ entries := by
  induction entries with
  | nil => simpa [insertSorted] using h
  | cons head rest ih =>
    obtain ⟨k, v⟩ := head
    simp only [insertSorted] at h
    split at h
    · simpa using h
    · split at h
      · rcases List.mem_cons.1 h with h | h
        · exact .inl h
        · exact .inr (List.mem_cons_of_mem _ h)
      · rcases List.mem_cons.1 h with h | h
        · exact .inr (h ▸ List.mem_cons_self)
        · exact (ih h).imp_right (List.mem_cons_of_mem _)

/-- Writing a pair keeps the order of the keys. -/
theorem sorted_insertSorted (key : String) (value : α) {entries : Entries α}
    (h : Sorted entries) : Sorted (insertSorted key value entries) := by
  induction entries with
  | nil => simp [insertSorted, Sorted]
  | cons head rest ih =>
    obtain ⟨k, v⟩ := head
    obtain ⟨hhead, hrest⟩ := List.pairwise_cons.1 h
    simp only [insertSorted]
    split
    · rename_i hlt
      refine List.pairwise_cons.2 ⟨fun pair hp => ?_, h⟩
      rcases List.mem_cons.1 hp with rfl | hp
      · exact hlt
      · exact String.lt_trans hlt (hhead pair hp)
    · split
      · rename_i heq
        exact List.pairwise_cons.2 ⟨fun pair hp => heq ▸ hhead pair hp, hrest⟩
      · rename_i hnlt hne
        have hlt : k < key := by
          rcases lt_or_eq_or_gt k key with h | h | h
          · exact h
          · exact absurd h hne
          · exact absurd h hnlt
        refine List.pairwise_cons.2 ⟨fun pair hp => ?_, ih hrest⟩
        rcases mem_insertSorted hp with rfl | hp
        · exact hlt
        · exact hhead pair hp

/-- A pair is found under its key, and any other one as before. -/
theorem get?_insertSorted (key other : String) (value : α) (entries : Entries α) :
    get? other (insertSorted key value entries)
      = if key = other then some value else get? other entries := by
  induction entries with
  | nil => simp [insertSorted, get?]
  | cons head rest ih =>
    obtain ⟨k, v⟩ := head
    simp only [insertSorted]
    split
    · simp [get?]
    · split
      · rename_i heq
        subst heq
        by_cases h : k = other <;> simp [get?, h]
      · rename_i hne
        by_cases h : k = other
        · subst h
          simp [get?, Ne.symm hne]
        · simp [get?, h, ih]

/-- Nothing is found under a key that comes before all keys there are. -/
theorem get?_eq_none {key : String} {entries : Entries α} (h : ∀ pair ∈ entries, key < pair.1) :
    get? key entries = none := by
  induction entries with
  | nil => rfl
  | cons head rest ih =>
    have hne : head.1 ≠ key := fun heq =>
      String.lt_irrefl key (by have := h head List.mem_cons_self; rwa [heq] at this)
    simp only [get?, hne, if_false]
    exact ih fun pair hp => h pair (List.mem_cons_of_mem _ hp)

theorem forall_lt_of_lt {key : String} {pair : String × α} {rest : Entries α}
    (h : key < pair.1) (hrest : ∀ p ∈ rest, pair.1 < p.1) : ∀ p ∈ pair :: rest, key < p.1 := by
  intro p hp
  rcases List.mem_cons.1 hp with rfl | hp
  · exact h
  · exact String.lt_trans h (hrest p hp)

end Entries

/-- A finite map from texts, in the order of its keys. -/
structure Bindings (α : Type) where
  /-- The pairs. -/
  entries : Entries α
  /-- The keys increase strictly. -/
  sorted : entries.Sorted
  deriving DecidableEq

namespace Bindings

variable {α : Type}

/-- The map without pairs. -/
def empty : Bindings α := ⟨[], List.Pairwise.nil⟩

instance : Inhabited (Bindings α) := ⟨empty⟩

/-- The value under a key. -/
def get? (bindings : Bindings α) (key : String) : Option α := bindings.entries.get? key

/-- Binds a key, replacing what it was bound to. -/
def insert (bindings : Bindings α) (key : String) (value : α) : Bindings α :=
  ⟨bindings.entries.insertSorted key value, Entries.sorted_insertSorted key value bindings.sorted⟩

/-- Binds pairs one after the other; of a repeated key the last value stays. -/
def insertAll (bindings : Bindings α) (pairs : List (String × α)) : Bindings α :=
  pairs.foldl (fun out pair => out.insert pair.1 pair.2) bindings

/-- The map that binds these pairs one after the other. -/
def ofList (pairs : List (String × α)) : Bindings α := empty.insertAll pairs

/-- The values, in the order of their keys. -/
def values (bindings : Bindings α) : List α := bindings.entries.map (·.2)

@[simp]
theorem get?_empty (key : String) : (empty : Bindings α).get? key = none := rfl

theorem get?_insert (bindings : Bindings α) (key other : String) (value : α) :
    (bindings.insert key value).get? other
      = if key = other then some value else bindings.get? other :=
  Entries.get?_insertSorted key other value bindings.entries

/-- Maps that agree under every key are equal. -/
theorem ext_get? {a b : Bindings α} (h : ∀ key, a.get? key = b.get? key) : a = b := by
  obtain ⟨xs, hxs⟩ := a
  obtain ⟨ys, hys⟩ := b
  suffices xs = ys by subst this; rfl
  simp only [get?] at h
  induction xs generalizing ys with
  | nil =>
    cases ys with
    | nil => rfl
    | cons y ys => exact absurd (h y.1) (by simp [Entries.get?])
  | cons x xs ih =>
    obtain ⟨k, v⟩ := x
    cases ys with
    | nil => exact absurd (h k) (by simp [Entries.get?])
    | cons y ys =>
      obtain ⟨k', v'⟩ := y
      obtain ⟨hx, hxs'⟩ := List.pairwise_cons.1 hxs
      obtain ⟨hy, hys'⟩ := List.pairwise_cons.1 hys
      -- The least key of either side is missing from the other unless they agree.
      have hk : k = k' := by
        rcases Entries.lt_or_eq_or_gt k k' with hlt | heq | hgt
        · have := h k
          rw [Entries.get?_eq_none (Entries.forall_lt_of_lt hlt hy)] at this
          simp [Entries.get?] at this
        · exact heq
        · have := h k'
          rw [Entries.get?_eq_none (Entries.forall_lt_of_lt hgt hx)] at this
          simp [Entries.get?] at this
      subst hk
      have hv : v = v' := by simpa [Entries.get?] using h k
      subst hv
      refine congrArg _ (ih hxs' ys hys' fun key => ?_)
      rcases Classical.em (k = key) with rfl | hne
      · rw [Entries.get?_eq_none fun pair hp => hx pair hp,
          Entries.get?_eq_none fun pair hp => hy pair hp]
      · simpa [Entries.get?, hne] using h key

end Bindings

/-- The pairs in the order of their keys. -/
def Entries.inKeyOrder {α : Type} (entries : Entries α) : Entries α :=
  (Bindings.ofList entries).entries

end SamTemplate
