/-!
# Entries

The pairs of a mapping, in the order they were written. Writing a pair under a
key that is already there replaces the value and keeps the place, so the order
is that of the first occurrences.

* `Entries.get?_put`: a written value is the one read back, and no other key is
  touched;
* `Entries.keys_put`: writing keeps the keys in order, with at most one new key
  at the end.
-/

namespace SamTemplate

/-- The pairs of a mapping with text keys, in order. -/
abbrev Entries (α : Type) := List (String × α)

namespace Entries

variable {α : Type}

/-- The value under a key. -/
def get? (key : String) : Entries α → Option α
  | [] => none
  | (k, v) :: rest => if k = key then some v else get? key rest

/-- The keys, in order. -/
def keys (entries : Entries α) : List String := entries.map (·.1)

/-- Writes a pair: over the pair with the same key, or else at the end. -/
def put (key : String) (value : α) : Entries α → Entries α
  | [] => [(key, value)]
  | (k, v) :: rest => if k = key then (key, value) :: rest else (k, v) :: put key value rest

/-- The pairs written one after the other into an empty mapping. -/
def ofList (pairs : List (String × α)) : Entries α :=
  pairs.foldl (fun entries pair => put pair.1 pair.2 entries) []

/-- No key occurs twice. -/
def Distinct (entries : Entries α) : Prop := entries.keys.Nodup

theorem get?_put (key other : String) (value : α) (entries : Entries α) :
    get? other (put key value entries)
      = if key = other then some value else get? other entries := by
  induction entries with
  | nil => simp [put, get?]
  | cons pair rest ih =>
    obtain ⟨k, v⟩ := pair
    by_cases hk : k = key
    · subst hk
      by_cases h : k = other <;> simp [put, get?, h]
    · by_cases h : k = other
      · subst h
        simp [put, get?, hk, Ne.symm hk]
      · simp [put, get?, hk, h, ih]

theorem mem_keys_of_get? {key : String} {value : α} {entries : Entries α}
    (h : get? key entries = some value) : key ∈ keys entries := by
  induction entries with
  | nil => exact nomatch h
  | cons pair rest ih =>
    obtain ⟨k, v⟩ := pair
    by_cases hk : k = key
    · simp [keys, hk]
    · rw [get?, if_neg hk] at h
      exact List.mem_cons_of_mem _ (ih h)

theorem keys_put (key : String) (value : α) (entries : Entries α) :
    keys (put key value entries)
      = if key ∈ keys entries then keys entries else keys entries ++ [key] := by
  induction entries with
  | nil => simp [put, keys]
  | cons pair rest ih =>
    obtain ⟨k, v⟩ := pair
    by_cases hk : k = key
    · subst hk
      simp [put, keys]
    · simp only [put, hk, if_false]
      by_cases h : key ∈ keys rest <;> simp_all [keys, Ne.symm hk]

end Entries

end SamTemplate
