import Mathlib.Computability.StateTransition

/-!
# Cycles of references

Each name refers to one other name at most (`next`). From a name on, the references end or
they lead into a cycle and never leave it (`OnCycle.of_reaches`).

* `Enters`: the first member of a cycle that the references from a name come to;
* `FirstEntered`: the member of a cycle that is entered first, where names are followed one
  after the other; there is exactly one of each cycle that is come to at all
  (`existsUnique_firstEntered`);
* `Returns`: the first of some given names that the references from a name come to.
-/

namespace SamTemplate

open Relation StateTransition

variable {next : String → Option String} {names : List String} {a b m m' : String}

/-- Some references lead from the name back to it. -/
def OnCycle (next : String → Option String) (name : String) : Prop := Reaches₁ next name name

/-! ### Members of a cycle -/

/-- The references from a name that refers to nothing end there. -/
theorem eq_of_reaches_of_none (h : next a = none) (hm : Reaches next a m) : m = a := by
  rcases ReflTransGen.cases_head hm with heq | ⟨b, hb, -⟩
  · exact heq.symm
  · exact nomatch h.symm.trans hb

namespace OnCycle

/-- No reference leads out of a cycle. -/
theorem reaches_of_reaches (h : OnCycle next a) (hb : Reaches next a b) : Reaches next b a := by
  induction hb with
  | refl => exact ReflTransGen.refl
  -- The way back from the name before leads through its only reference.
  | tail _ hstep ih => exact reaches₁_fwd (TransGen.trans_right ih h) hstep

theorem of_reaches (h : OnCycle next a) (hb : Reaches next a b) : OnCycle next b :=
  TransGen.trans_left (TransGen.trans_right (h.reaches_of_reaches hb) h) hb

theorem exists_next (h : OnCycle next a) : ∃ b, next a = some b := by
  obtain ⟨b, hb, -⟩ := TransGen.head'_iff.1 h
  exact ⟨b, hb⟩

/-- What comes to a name and to a cycle comes to the cycle from the name, too. -/
theorem reaches_of_common (h : OnCycle next m) (hb : Reaches next a b) (hm : Reaches next a m) :
    Reaches next b m := by
  rcases reaches_total hb hm with hto | hto
  · exact hto
  · exact h.reaches_of_reaches hto

end OnCycle

/-! ### Entering a cycle -/

/-- The references from a name enter a cycle in `m`. -/
inductive Enters (next : String → Option String) (m : String) : String → Prop
  /-- The name is a member. -/
  | here : OnCycle next m → Enters next m m
  /-- The name comes before the cycle. -/
  | later {a b : String} : ¬ OnCycle next a → next a = some b → Enters next m b → Enters next m a

namespace Enters

theorem onCycle (h : Enters next m a) : OnCycle next m := by
  induction h with
  | here hcycle => exact hcycle
  | later _ _ _ ih => exact ih

theorem reaches (h : Enters next m a) : Reaches next a m := by
  induction h with
  | here _ => exact ReflTransGen.refl
  | later _ hnext _ ih => exact ReflTransGen.head hnext ih

theorem unique (h : Enters next m a) (h' : Enters next m' a) : m = m' := by
  induction h with
  | here hcycle =>
    cases h' with
    | here _ => rfl
    | later hnot _ _ => exact absurd hcycle hnot
  | later hnot hnext _ ih =>
    cases h' with
    | here hcycle => exact absurd hcycle hnot
    | later _ hnext' h' => exact ih (Option.some.inj (hnext'.symm.trans hnext) ▸ h')

/-- References that come to a cycle enter it somewhere. -/
theorem exists_of_reaches (ha : Reaches next a b) (h : OnCycle next b) :
    ∃ m, Enters next m a ∧ Reaches next b m := by
  induction ha using ReflTransGen.head_induction_on with
  | refl => exact ⟨b, .here h, ReflTransGen.refl⟩
  | head hstep hrest ih =>
    rename_i a c
    by_cases hcycle : OnCycle next a
    · exact ⟨a, .here hcycle, hcycle.reaches_of_reaches (ReflTransGen.head hstep hrest)⟩
    · obtain ⟨m, hm, hreach⟩ := ih
      exact ⟨m, .later hcycle hstep hm, hreach⟩

end Enters

/-- The references from the names, followed one name after the other, enter a cycle for the
    first time, and do so in `m`. -/
inductive FirstEntered (next : String → Option String) (m : String) : List String → Prop
  | now {name : String} {names : List String} : Enters next m name →
      FirstEntered next m (name :: names)
  | later {name : String} {names : List String} : ¬ Reaches next name m →
      FirstEntered next m names → FirstEntered next m (name :: names)

namespace FirstEntered

theorem onCycle (h : FirstEntered next m names) : OnCycle next m := by
  induction h with
  | now henters => exact henters.onCycle
  | later _ _ ih => exact ih

/-- A name that is followed last enters the cycles that no name before it comes to. -/
theorem append_singleton_iff :
    FirstEntered next m (names ++ [a]) ↔
      FirstEntered next m names ∨ Enters next m a ∧ ∀ name ∈ names, ¬ Reaches next name m := by
  induction names with
  | nil =>
    constructor
    · rintro (henters | ⟨-, hrest⟩)
      · exact .inr ⟨henters, fun _ h => nomatch h⟩
      · exact nomatch hrest
    · rintro (h | ⟨henters, -⟩)
      · exact nomatch h
      · exact .now henters
  | cons name names ih =>
    constructor
    · rintro (henters | ⟨hnot, hrest⟩)
      · exact .inl (.now henters)
      · rcases ih.1 hrest with hfirst | ⟨henters, hnone⟩
        · exact .inl (.later hnot hfirst)
        · exact .inr ⟨henters, List.forall_mem_cons.2 ⟨hnot, hnone⟩⟩
    · rintro ((henters | ⟨hnot, hfirst⟩) | ⟨henters, hnone⟩)
      · exact .now henters
      · exact .later hnot (ih.2 (.inl hfirst))
      · obtain ⟨hnot, hnone⟩ := List.forall_mem_cons.1 hnone
        exact .later hnot (ih.2 (.inr ⟨henters, hnone⟩))

theorem unique (h : FirstEntered next m names) (h' : FirstEntered next m' names)
    (hm : Reaches next m m') : m = m' := by
  induction h with
  | now henters =>
    cases h' with
    | now henters' => exact henters.unique henters'
    | later hnot _ => exact absurd (henters.reaches.trans hm) hnot
  | later hnot hfirst ih =>
    cases h' with
    | now henters' =>
      exact absurd (henters'.reaches.trans (hfirst.onCycle.reaches_of_reaches hm)) hnot
    | later _ h' => exact ih h'

end FirstEntered

/-- Of a cycle that the references from some of the names come to, exactly one member is
    entered first. -/
theorem existsUnique_firstEntered (h : OnCycle next b)
    (hnames : ∃ name ∈ names, Reaches next name b) :
    ∃! m, FirstEntered next m names ∧ Reaches next b m := by
  have hexists : ∃ m, FirstEntered next m names ∧ Reaches next b m := by
    induction names with
    | nil => exact nomatch hnames.choose_spec.1
    | cons name names ih =>
      by_cases hname : Reaches next name b
      · obtain ⟨m, henters, hm⟩ := Enters.exists_of_reaches hname h
        exact ⟨m, .now henters, hm⟩
      · obtain ⟨other, hmem, hother⟩ := hnames
        obtain rfl | hmem := List.mem_cons.1 hmem
        · exact absurd hother hname
        · obtain ⟨m, hfirst, hm⟩ := ih ⟨other, hmem, hother⟩
          -- A name that comes to `m` comes to every member of its cycle.
          exact ⟨m, .later (fun hto => hname (hto.trans (h.reaches_of_reaches hm))) hfirst, hm⟩
  obtain ⟨m, hfirst, hm⟩ := hexists
  refine ⟨m, ⟨hfirst, hm⟩, fun m' ⟨hfirst', hm'⟩ => ?_⟩
  exact hfirst'.unique hfirst ((h.reaches_of_reaches hm').trans hm)

/-! ### Coming back -/

/-- The first of some names that the references from a name come to is `m`. -/
inductive Returns (next : String → Option String) (names : List String) (m : String) :
    String → Prop
  | here : m ∈ names → Returns next names m m
  | later {a b : String} : a ∉ names → next a = some b → Returns next names m b →
      Returns next names m a

namespace Returns

theorem mem (h : Returns next names m a) : m ∈ names := by
  induction h with
  | here hmem => exact hmem
  | later _ _ _ ih => exact ih

theorem reaches (h : Returns next names m a) : Reaches next a m := by
  induction h with
  | here _ => exact ReflTransGen.refl
  | later _ hnext _ ih => exact ReflTransGen.head hnext ih

/-- Fewer names are come to later, unless the first one is still among them. -/
theorem subset {names' : List String} (h : Returns next names m a) (hsub : names' ⊆ names)
    (hm : m ∈ names') : Returns next names' m a := by
  induction h with
  | here _ => exact .here hm
  | later hnot hnext _ ih => exact .later (fun hmem => hnot (hsub hmem)) hnext ih

/-- The references from a name that come back to it before they come to any of some other
    names never come to those. -/
theorem not_reaches (h : Returns next (a :: names) a b) (hnext : next a = some b)
    (ha : a ∉ names) : ∀ name ∈ names, ¬ Reaches next a name := by
  -- All that is come to lies on the way back.
  have hback {c : String} (hc : Reaches next a c) : c = a ∨ Returns next (a :: names) a c := by
    induction hc with
    | refl => exact .inl rfl
    | tail _ hstep ih =>
      rcases ih with rfl | hreturns
      · exact .inr (Option.some.inj (hnext.symm.trans hstep) ▸ h)
      · cases hreturns with
        | here _ => exact .inr (Option.some.inj (hnext.symm.trans hstep) ▸ h)
        | later _ hnext' hrest => exact .inr (Option.some.inj (hnext'.symm.trans hstep) ▸ hrest)
  intro name hmem hname
  rcases hback hname with rfl | hreturns
  · exact ha hmem
  · cases hreturns with
    | here _ => exact ha hmem
    | later hnot _ _ => exact hnot (List.mem_cons_of_mem _ hmem)

end Returns

end SamTemplate
