import Mathlib.Data.Set.Basic
import Mathlib.Data.List.Perm.Basic
import SamTemplate.Proofs.Quiet
import SamTemplate.Proofs.Reordering
import SamTemplate.Proofs.Scratch

/-!
# Agreement up to order

A computation that depends on the template only has the same value and the same
notices in all sessions of it (`Evaluation.Yields`), or fails in all of them
(`Evaluation.Fails`). Two computations agree if they yield related values and the
same notices in sessions of two templates, or the first one fails
(`Evaluation.Agree`).

* `Agree.bind`, `Agree.mapM`: agreement passes from the steps to the whole;
* `Agree.mapM_perm`: going through lists in different orders, two computations
  agree if they do on the elements, since noting in another order is noting the
  same.
-/

namespace SamTemplate

open Node

namespace Evaluation

variable {α β γ δ : Type} {parameters : Parameters} {conditions conditions' : Entries Node}

/-- In every session of a template a computation gives a value and adds certain
    messages to the notices. -/
def Yields (parameters : Parameters) (conditions : Entries Node) (x : Evaluation α) (a : α)
    (noted : Set String) : Prop :=
  ∀ s : Session, s.Serves parameters conditions → ∃ t : Session, x s = some (a, t) ∧
    t.Serves parameters conditions ∧
    ∀ m, m ∈ t.warnings.messages ↔ m ∈ s.warnings.messages ∨ m ∈ noted

/-- In no session of a template a computation has a result. -/
def Fails (parameters : Parameters) (conditions : Entries Node) (x : Evaluation α) : Prop :=
  ∀ s : Session, s.Serves parameters conditions → x s = none

/-- If the first computation has a result, the second has a related one, and both
    note the same. -/
def Agree (parameters : Parameters) (conditions conditions' : Entries Node) (R : α → β → Prop)
    (x : Evaluation α) (y : Evaluation β) : Prop :=
  Fails parameters conditions x ∨ ∃ a b noted, R a b ∧ Yields parameters conditions x a noted ∧
    Yields parameters conditions' y b noted

/-! ### Single computations -/

/-- What a computation does in other sessions does not matter. -/
theorem Yields.congr {x y : Evaluation α} {a : α} {noted : Set String}
    (h : Yields parameters conditions x a noted)
    (hxy : ∀ s : Session, s.Serves parameters conditions → y s = x s) :
    Yields parameters conditions y a noted := by
  intro s hs
  rw [hxy s hs]
  exact h s hs

theorem Fails.congr {x y : Evaluation α} (h : Fails parameters conditions x)
    (hxy : ∀ s : Session, s.Serves parameters conditions → y s = x s) :
    Fails parameters conditions y :=
  fun s hs => (hxy s hs).trans (h s hs)

theorem Yields.pure (a : α) : Yields parameters conditions (pure a) a ∅ :=
  fun s hs => ⟨s, rfl, hs, by simp⟩

theorem Yields.note (notice : Notice) :
    Yields parameters conditions (note notice) () {notice.message} :=
  fun s hs => ⟨_, rfl, (Session.Grows.note s notice).serves hs, Warnings.mem_add _ _⟩

/-- One computation after another notes what both of them note. -/
theorem Yields.bind {x : Evaluation α} {f : α → Evaluation β} {a : α} {b : β}
    {noted noted' : Set String} (hx : Yields parameters conditions x a noted)
    (hf : Yields parameters conditions (f a) b noted') :
    Yields parameters conditions (x >>= f) b (noted ∪ noted') := by
  intro s hs
  obtain ⟨t, ht, hserves, hnoted⟩ := hx s hs
  obtain ⟨u, hu, hserves', hnoted'⟩ := hf t hserves
  refine ⟨u, bind_eq_some_iff.2 ⟨a, t, ht, hu⟩, hserves', fun m => ?_⟩
  rw [hnoted', hnoted, or_assoc, Set.mem_union]

/-- A computation fails where its first part does. -/
theorem Fails.bind {x : Evaluation α} (hx : Fails parameters conditions x)
    (f : α → Evaluation β) : Fails parameters conditions (x >>= f) := by
  intro s hs
  change (x s).bind _ = none
  rw [hx s hs]
  rfl

/-- A computation fails where the first part yields and the next one fails. -/
theorem Yields.bind_fails {x : Evaluation α} {f : α → Evaluation β} {a : α} {noted : Set String}
    (hx : Yields parameters conditions x a noted) (hf : Fails parameters conditions (f a)) :
    Fails parameters conditions (x >>= f) := by
  intro s hs
  obtain ⟨t, ht, hserves, -⟩ := hx s hs
  change (x s).bind _ = none
  rw [ht]
  exact hf t hserves

/-- What is yielded is seen in any session of the template. -/
theorem Yields.of_run {x : Evaluation α} {a b : α} {noted : Set String} {s t : Session}
    (h : Yields parameters conditions x a noted) (hs : s.Serves parameters conditions)
    (hx : x s = some (b, t)) : b = a ∧ t.Serves parameters conditions ∧
      ∀ m, m ∈ t.warnings.messages ↔ m ∈ s.warnings.messages ∨ m ∈ noted := by
  obtain ⟨u, hu, hserves, hnoted⟩ := h s hs
  cases hx.symm.trans hu
  exact ⟨rfl, hserves, hnoted⟩

/-- No computation both yields and fails, since a template has a session. -/
theorem Fails.not_yields {x : Evaluation α} {a : α} {noted : Set String}
    (h : Fails parameters conditions x) : ¬ Yields parameters conditions x a noted := by
  intro hy
  obtain ⟨t, ht, -⟩ := hy _ (Session.serves_start parameters conditions)
  rw [h _ (Session.serves_start parameters conditions)] at ht
  exact nomatch ht

/-- A computation that yields something for each element yields it all. -/
theorem Yields.mapM {τ : Type} {value : τ → β} {noted : τ → Set String} {f : α → Evaluation β}
    {l : List α} {outcomes : List τ}
    (h : List.Forall₂ (fun a o => Yields parameters conditions (f a) (value o) (noted o)) l
      outcomes) :
    Yields parameters conditions (l.mapM f) (outcomes.map value)
      {m | ∃ o ∈ outcomes, m ∈ noted o} := by
  induction h with
  | nil => simpa using Yields.pure []
  | @cons a o l outcomes hao _ ih =>
    rw [List.mapM_cons]
    have hset : {m | ∃ o' ∈ o :: outcomes, m ∈ noted o'}
        = noted o ∪ ({m | ∃ o' ∈ outcomes, m ∈ noted o'} ∪ ∅) := by
      ext m
      simp
    rw [hset]
    exact hao.bind (ih.bind (Yields.pure _))

/-- A computation that fails for some element fails for the list. -/
theorem Fails.mapM {f : α → Evaluation β} {l : List α}
    (h : ∀ a ∈ l, Fails parameters conditions (f a) ∨
      ∃ b noted, Yields parameters conditions (f a) b noted)
    (hfail : ∃ a ∈ l, Fails parameters conditions (f a)) :
    Fails parameters conditions (l.mapM f) := by
  induction l with
  | nil => exact absurd hfail (by simp)
  | cons a l ih =>
    rw [List.mapM_cons]
    obtain ⟨ha, hl⟩ := List.forall_mem_cons.1 h
    rcases ha with ha | ⟨b, noted, ha⟩
    · exact ha.bind _
    · obtain ⟨a', hmem, hfail⟩ := hfail
      rcases List.mem_cons.1 hmem with rfl | hmem
      · exact absurd ha hfail.not_yields
      · exact ha.bind_fails ((ih hl ⟨a', hmem, hfail⟩).bind _)

/-! ### Pairs of computations -/

namespace Agree

variable {R : α → β → Prop} {S : γ → δ → Prop} {x : Evaluation α} {y : Evaluation β}

theorem pure {a : α} {b : β} (h : R a b) :
    Agree parameters conditions conditions' R (Pure.pure a) (Pure.pure b) :=
  .inr ⟨a, b, ∅, h, .pure a, .pure b⟩

/-- Agreement passes to a weaker relation of values. -/
theorem imp {R' : α → β → Prop} (h : Agree parameters conditions conditions' R x y)
    (hR : ∀ a b, R a b → R' a b) : Agree parameters conditions conditions' R' x y :=
  h.imp_right fun ⟨a, b, noted, hab, hx, hy⟩ => ⟨a, b, noted, hR a b hab, hx, hy⟩

/-- Agreement passes from two parts to one after the other. -/
theorem bind {f : α → Evaluation γ} {g : β → Evaluation δ}
    (h : Agree parameters conditions conditions' R x y)
    (hfg : ∀ a b, R a b → Agree parameters conditions conditions' S (f a) (g b)) :
    Agree parameters conditions conditions' S (x >>= f) (y >>= g) := by
  rcases h with hx | ⟨a, b, noted, hab, hx, hy⟩
  · exact .inl (hx.bind f)
  · -- The first part yields on both sides, and so what comes after it decides.
    rcases hfg a b hab with hf | ⟨c, d, noted', hcd, hf, hg⟩
    · exact .inl (hx.bind_fails hf)
    · exact .inr ⟨c, d, noted ∪ noted', hcd, hx.bind hf, hy.bind hg⟩

theorem congr {x' : Evaluation α} {y' : Evaluation β}
    (h : Agree parameters conditions conditions' R x y)
    (hx : ∀ s : Session, s.Serves parameters conditions → x' s = x s)
    (hy : ∀ s : Session, s.Serves parameters conditions' → y' s = y s) :
    Agree parameters conditions conditions' R x' y' :=
  Or.imp (·.congr hx) (fun ⟨a, b, noted, hab, hxa, hyb⟩ =>
    ⟨a, b, noted, hab, hxa.congr hx, hyb.congr hy⟩) h

theorem note (notice : Notice) : Agree parameters conditions conditions' Eq
    (Evaluation.note notice) (Evaluation.note notice) :=
  .inr ⟨(), (), _, rfl, .note notice, .note notice⟩

/-- Both sides read the same parameters. -/
theorem read {f : Parameters → Evaluation α} {g : Parameters → Evaluation β}
    (h : Agree parameters conditions conditions' R (f parameters) (g parameters)) :
    Agree parameters conditions conditions' R
      (do f (← get).parameters) (do g (← get).parameters) :=
  h.congr (fun s hs => by rw [get_bind_apply, hs.parameters_eq])
    fun s hs => by rw [get_bind_apply, hs.parameters_eq]

theorem decline {R : α → β → Prop} (notice : Notice) :
    Agree parameters conditions conditions' (Option.Rel R)
      (Evaluation.decline notice) (Evaluation.decline notice) :=
  (note notice).bind fun _ _ _ => pure .none

theorem deny (notice : Notice) : Agree parameters conditions conditions' Eq
    (Evaluation.deny notice) (Evaluation.deny notice) :=
  (note notice).bind fun _ _ _ => pure rfl

/-- Computations that agree element by element agree on lists of which one is in
    another order. -/
theorem mapM_perm {Q : α → γ → δ → Prop} {f : α → Evaluation γ} {g : β → Evaluation δ}
    {l permuted : List α} {l' : List β} (hp : l.Perm permuted)
    (h : List.Forall₂ (fun a b => Agree parameters conditions conditions' (Q a) (f a) (g b))
      permuted l') :
    Agree parameters conditions conditions'
      (fun cs ds => List.Forall₂ (fun a c => ∃ d, Q a c d) l cs ∧
        ∃ cs', cs.Perm cs' ∧ List.Forall₂ (fun c d => ∃ a, Q a c d) cs' ds)
      (l.mapM f) (l'.mapM g) := by
  by_cases hfail : ∃ a ∈ permuted, Fails parameters conditions (f a)
  · -- A failure stays one in any order.
    obtain ⟨a, hmem, hfail⟩ := hfail
    have h' : List.Forall₂ (fun b a => Agree parameters conditions conditions' (Q a) (f a) (g b))
        l' permuted := h.flip
    refine .inl (Fails.mapM (fun a' hmem' => ?_) ⟨a, hp.mem_iff.2 hmem, hfail⟩)
    refine forall_mem_of_forall₂ h' (p := fun a => Fails parameters conditions (f a) ∨
      ∃ c noted, Yields parameters conditions (f a) c noted) (fun b a hb => ?_) a'
      (hp.mem_iff.1 hmem')
    exact Or.imp_right (fun ⟨c, _, noted, _, hc, _⟩ => ⟨c, noted, hc⟩) hb
  · -- Otherwise there are values and notices for each pair of elements.
    obtain ⟨outcomes, hl, hl'⟩ : ∃ outcomes : List (γ × δ × Set String),
        List.Forall₂ (fun a o => Yields parameters conditions (f a) o.1 o.2.2 ∧ Q a o.1 o.2.1)
          permuted outcomes ∧
        List.Forall₂ (fun b o => Yields parameters conditions' (g b) o.2.1 o.2.2) l' outcomes := by
      clear hp
      induction h with
      | nil => exact ⟨[], .nil, .nil⟩
      | @cons a b permuted l' hab _ ih =>
        obtain ⟨outcomes, hl, hl'⟩ := ih fun ⟨a', hmem, ha'⟩ =>
          hfail ⟨a', List.mem_cons_of_mem _ hmem, ha'⟩
        rcases hab with ha | ⟨c, d, noted, hq, hc, hd⟩
        · exact absurd ⟨a, List.mem_cons_self, ha⟩ hfail
        · exact ⟨(c, d, noted) :: outcomes, .cons ⟨hc, hq⟩ hl, .cons hd hl'⟩
    obtain ⟨reordered, hr, hperm⟩ := List.perm_comp_forall₂ hp hl
    refine .inr ⟨reordered.map (·.1), outcomes.map (·.2.1),
      {m | ∃ o ∈ outcomes, m ∈ o.2.2}, ⟨?_, outcomes.map (·.1), hperm.map _, ?_⟩, ?_,
      Yields.mapM hl'⟩
    · exact List.forall₂_map_right_iff.2 (hr.imp fun _ o h => ⟨o.2.1, h.2⟩)
    · refine List.forall₂_map_left_iff.2 (List.forall₂_map_right_iff.2 ?_)
      exact List.forall₂_same.2 (forall_mem_of_forall₂ hl fun a _ h => ⟨a, h.2⟩)
    · have hset : {m | ∃ o ∈ outcomes, m ∈ o.2.2}
          = {m : String | ∃ o ∈ reordered, m ∈ o.2.2} := by
        ext m
        simp only [Set.mem_ofPred_eq, hperm.mem_iff]
      rw [hset]
      exact Yields.mapM (hr.imp fun _ _ h => h.1)

/-- Computations that agree element by element agree on lists. -/
theorem mapM {R : α → β → Prop} {f : α → Evaluation γ} {g : β → Evaluation δ} {l : List α}
    {l' : List β} (h : List.Forall₂ R l l')
    (hfg : ∀ a b, R a b → Agree parameters conditions conditions' S (f a) (g b)) :
    Agree parameters conditions conditions' (List.Forall₂ S) (l.mapM f) (l'.mapM g) := by
  induction h with
  | nil => simpa using pure .nil
  | cons hab _ ih =>
    rw [List.mapM_cons, List.mapM_cons]
    exact (hfg _ _ hab).bind fun _ _ hc => ih.bind fun _ _ hcs => pure (.cons hc hcs)

end Agree

end Evaluation

end SamTemplate
