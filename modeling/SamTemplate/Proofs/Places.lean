import SamTemplate.Proofs.RelatedRuns

/-!
# Places in a tree

A place in a tree is given by the keys and positions on the way to it from the root. Trees may
agree but for what is at one place (`Node.ApartAt`). Where no key on the way is the name of a
function nothing on the way is a call, so such trees are resolved to trees that agree but for what
is at the same place, whatever is beside the way.

* `Node.ApartAt.resolve_relates`: from what the differing parts are resolved to, to what the trees
  are resolved to.
-/

namespace SamTemplate

open Node Evaluation Resolution

/-- A step down a tree. -/
inductive Step where
  /-- To what is under a key of a mapping. -/
  | key (name : String)
  /-- To the item at a position of a sequence, counted from zero. -/
  | item (index : Nat)

/-- Lists that agree but for the elements at one position, which are related. -/
inductive ItemsApart {α : Type} (U : α → α → Prop) : Nat → List α → List α → Prop
  | here {a b : α} {rest : List α} : U a b → ItemsApart U 0 (a :: rest) (b :: rest)
  | later {index : Nat} {a : α} {rest rest' : List α} : ItemsApart U index rest rest' →
      ItemsApart U (index + 1) (a :: rest) (a :: rest')

/-- Trees that agree but for what is at one place, which is related. -/
def Node.ApartAt (U : Node → Node → Prop) : List Step → Node → Node → Prop
  | [] => U
  | .key name :: path => OnEntries fun entries entries' =>
      name ∈ entries.keys ∧ entries.AgreesBut name (ApartAt U path) entries'
  | .item index :: path => OnItems (ItemsApart (ApartAt U path) index)

/-- No key on the way is the name of a function. -/
def Nameless (path : List Step) : Prop :=
  ∀ name, Step.key name ∈ path → Intrinsic.ofName? name = none

variable {R : Session → Session → Prop} {U V : Node → Node → Prop}

theorem ItemsApart.exists_getElem? {α : Type} {U : α → α → Prop} {index : Nat}
    {items items' : List α} (h : ItemsApart U index items items') :
    ∃ a b, U a b ∧ items[index]? = some a := by
  induction h with
  | here hab => exact ⟨_, _, hab, rfl⟩
  | later _ ih => simpa using ih

/-- Item by item, sequences that agree but for one item. -/
theorem ItemsApart.mapM_relates {walk : Node → Evaluation Node} {index : Nat}
    {items items' : List Node} (h : ItemsApart U index items items')
    (hwalk : ∀ node, Relates R Eq (walk node) (walk node))
    (hU : ∀ a b, U a b → Relates R V (walk a) (walk b)) :
    Relates R (ItemsApart V index) (items.mapM walk) (items'.mapM walk) := by
  induction h with
  | @here a b rest hab =>
    have hrest : Relates R Eq (rest.mapM walk) (rest.mapM walk) :=
      (Relates.mapM (List.forall₂_same.2 fun node _ => hwalk node)).imp fun _ _ heq =>
        (List.forall₂_eq_eq_eq (α := Node)) ▸ heq
    rw [List.mapM_cons, List.mapM_cons]
    exact (hU a b hab).bind fun _ _ hv => hrest.bind fun _ _ heq => .pure (heq ▸ .here hv)
  | later _ ih =>
    rw [List.mapM_cons, List.mapM_cons]
    exact (hwalk _).bind fun _ _ heq => ih.bind fun _ _ hv => .pure (heq ▸ .later hv)

/-- Trees that agree but at one place are resolved to trees that agree but at this place. -/
theorem Node.ApartAt.resolve_relates (hR : Matching R) {levels : Nat}
    (hleaf : ∀ {fuel budget a b}, levels ≤ budget.remaining → budget.remaining < fuel → U a b →
      Relates R V (resolve fuel budget a) (resolve fuel budget b))
    {path : List Step} (hpath : Nameless path) {fuel : Nat} {budget : Budget}
    (hlevels : path.length + levels ≤ budget.remaining) (hf : budget.remaining < fuel)
    {a b : Node} (h : ApartAt U path a b) :
    Relates R (ApartAt V path) (resolve fuel budget a) (resolve fuel budget b) := by
  -- Down the way; each step takes one level of those that are left.
  induction path generalizing fuel budget a b with
  | nil => exact hleaf (by simpa using hlevels) hf h
  | cons step path ih =>
    rw [List.length_cons] at hlevels
    obtain ⟨fuel, rfl⟩ : ∃ n, fuel = n + 1 := ⟨fuel - 1, by omega⟩
    have hs : budget.spent = false := Budget.spent_eq_false_iff.2 (by omega)
    have hdeeper : path.length + levels ≤ budget.deeper.remaining :=
      Budget.le_remaining_deeper (by omega)
    have hbelow {a b : Node} (hab : ApartAt U path a b) : Relates R (ApartAt V path)
        (resolve fuel budget.deeper a) (resolve fuel budget.deeper b) :=
      ih (fun name hmem => hpath name (List.mem_cons_of_mem _ hmem)) hdeeper
        (Budget.remaining_deeper_lt hs hf) hab
    cases step with
    | key name =>
      obtain ⟨entries, entries', rfl, rfl, hmem, hagrees⟩ := h
      refine (resolve_agreesBut_relates hR (hpath name List.mem_cons_self) hmem hagrees hs
        fun _ _ => hbelow).imp ?_
      rintro _ _ ⟨values, values', rfl, rfl, hkeys, hvalues⟩
      exact ⟨values, values', rfl, rfl, hkeys ▸ hmem, hvalues⟩
    | item index =>
      obtain ⟨items, items', rfl, rfl, hitems⟩ := h
      exact resolve_seq_relates hR.toComparable
        (fun hspent => absurd (hspent.symm.trans hs) (by decide))
        fun _ => hitems.mapM_relates (Resolution.resolve_relates hR _ _) fun _ _ => hbelow

end SamTemplate
