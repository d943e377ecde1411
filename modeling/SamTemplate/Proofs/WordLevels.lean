import SamTemplate.Proofs.Nesting
import SamTemplate.Resolution.Words

/-!
# Levels in words

With levels in words, the level after the greatest word is zero again. A level below the
limit has a word after it, so a walk never comes to where the words end. The operands of a
condition do if the limit is the greatest word: they are two levels below the last one that
was compared with it.

Hence resolving in words is resolving, and deciding in words is deciding for every limit but
the greatest word (`Wrapped.simulates`). With that limit it is deciding as long as no level
passes the greatest word, which the runs of `Counted` tell (`Wrapped.of_counted`).

* `Session.resolveInWords_eq`, `Session.expandInWords_eq`, `Session.decideInWords_eq`: what
  a session answers in words is what it answers;
* `Session.expandInWords_spec`, `Session.decideInWords_spec`: it answers in any case.
-/

namespace SamTemplate

open Evaluation

namespace Budget

variable {greatest : Nat} {budget : Budget}

/-- A budget whose level and limit are words. -/
structure InWords (greatest : Nat) (budget : Budget) : Prop where
  level : budget.level ≤ greatest
  limit : budget.limit ≤ greatest

theorem wrap_of_le (h : budget.level ≤ greatest) : budget.wrap greatest = budget := by
  rw [wrap, Nat.mod_eq_of_lt (Nat.lt_succ_of_le h)]

/-- A word is left of every level. -/
theorem inWords_wrap (h : budget.limit ≤ greatest) : (budget.wrap greatest).InWords greatest :=
  ⟨Nat.le_of_lt_succ (Nat.mod_lt _ (Nat.succ_pos _)), h⟩

/-- The levels of a named condition are words. -/
theorem inWords_start (hg : 22 ≤ greatest) : ({} : Budget).InWords greatest :=
  ⟨Nat.zero_le _, show 20 ≤ greatest by omega⟩

theorem limit_start_lt (hg : 22 ≤ greatest) : ({} : Budget).limit < greatest :=
  show 20 < greatest by omega

theorem remaining_le_limit (budget : Budget) : budget.remaining ≤ budget.limit := Nat.sub_le _ _

namespace InWords

/-- A level that is not the last is followed by a word. -/
theorem deeper (h : budget.InWords greatest) (hs : budget.spent = false) :
    budget.deeper.InWords greatest := by
  have hpos := spent_eq_false_iff.1 hs
  have hlimit := h.limit
  rw [remaining] at hpos
  exact ⟨show budget.level + 1 ≤ greatest by omega, hlimit⟩

/-- Two words follow it if the limit is not the greatest word. -/
theorem deeper_deeper (h : budget.limit < greatest) (hs : budget.spent = false) :
    budget.deeper.deeper.InWords greatest := by
  have hpos := spent_eq_false_iff.1 hs
  rw [remaining] at hpos
  exact ⟨show budget.level + 1 + 1 ≤ greatest by omega, Nat.le_of_lt h⟩

end InWords

end Budget

/-! ### Runs in words -/

/-- A run in which no level passes the greatest word is a run of whatever resolves and decides
    in the same way on the levels before it. -/
theorem Counted.simulates_levels {greatest : Nat}
    {resolve' : Nat → Budget → Node → Evaluation Node}
    {decide' : Nat → Budget → Node → Evaluation Bool}
    (hresolve : ∀ fuel budget, budget.level < greatest →
      resolve' (fuel + 1) budget = walkStep
        (fun budget node =>
          Intrinsic.expand (resolve' fuel budget.deeper) (Condition.ofName (decide' fuel)) node)
        (fun budget _ => Evaluation.note (.depthExceeded budget.limit)) (resolve' fuel) budget)
    (hdecide : ∀ fuel budget, budget.level < greatest →
      decide' (fuel + 1) budget = Condition.decideStep (resolve' fuel) (decide' fuel) budget)
    (fuel : Nat) :
    (∀ budget node,
      Simulates Eq (resolve greatest fuel budget node) (resolve' fuel budget node)) ∧
    ∀ budget node,
      Simulates Eq (decide greatest fuel budget node) (decide' fuel budget node) := by
  induction fuel with
  | zero => exact ⟨fun _ _ => .outOfFuel _, fun _ _ => .outOfFuel _⟩
  | succ fuel ih =>
    obtain ⟨hr, hd⟩ := ih
    have hP := compositional_simulates comparable_eq
    have hname := Condition.ofName_simulates_eq (hd {})
    refine ⟨fun budget node => ?_, fun budget node => ?_⟩
    · by_cases hlt : budget.level < greatest
      · rw [resolve, activate_of_lt hlt, hresolve fuel budget hlt]
        exact hP.resolveLevel (fun _ => hr _) hname node
      · rw [resolve, activate, if_neg hlt]
        exact .outOfFuel _
    · by_cases hlt : budget.level < greatest
      · rw [decide, activate_of_lt hlt, hdecide fuel budget hlt]
        exact hP.decideLevel (fun _ => hr _) (fun _ => hd _) hname node
      · rw [decide, activate, if_neg hlt]
        exact .outOfFuel _

/-- It is a run with levels that are counted without end. -/
theorem Resolution.of_counted (greatest fuel : Nat) :
    (∀ budget node, Simulates Eq (Counted.resolve greatest fuel budget node)
      (resolve fuel budget node)) ∧
    ∀ budget node, Simulates Eq (Counted.decide greatest fuel budget node)
      (decide fuel budget node) :=
  Counted.simulates_levels (fun _ _ _ => by rw [resolve]) (fun _ _ _ => by rw [decide]) fuel

namespace Wrapped

variable {greatest fuel : Nat} {budget : Budget}

theorem activate_of_le {α : Type} {run : Budget → Node → Evaluation α}
    (h : budget.level ≤ greatest) : activate greatest run budget = run budget := by
  funext node
  rw [activate, Budget.wrap_of_le h]

/-- It is a run in words. -/
theorem of_counted (greatest fuel : Nat) :
    (∀ budget node, Simulates Eq (Counted.resolve greatest fuel budget node)
      (resolve greatest fuel budget node)) ∧
    ∀ budget node, Simulates Eq (Counted.decide greatest fuel budget node)
      (decide greatest fuel budget node) := by
  refine Counted.simulates_levels (fun fuel budget h => ?_) (fun fuel budget h => ?_) fuel
  · rw [resolve, activate_of_le (Nat.le_of_lt h)]
  · rw [decide, activate_of_le (Nat.le_of_lt h)]

/-- Resolving is resolving in words, and deciding is deciding in words for every limit but
    the greatest word. -/
theorem simulates (hg : 22 ≤ greatest) (fuel : Nat) :
    (∀ budget node, budget.InWords greatest →
      Simulates Eq (Resolution.resolve fuel budget node) (resolve greatest fuel budget node)) ∧
    ∀ budget node, budget.InWords greatest → budget.limit < greatest →
      Simulates Eq (Resolution.decide fuel budget node) (decide greatest fuel budget node) := by
  induction fuel with
  | zero => exact ⟨fun _ _ _ => .outOfFuel _, fun _ _ _ _ => .outOfFuel _⟩
  | succ fuel ih =>
    obtain ⟨hr, hd⟩ := ih
    have hP := compositional_simulates comparable_eq
    have hname := Condition.ofName_simulates_eq fun node =>
      hd {} node (Budget.inWords_start hg) (Budget.limit_start_lt hg)
    refine ⟨fun budget node h => ?_, fun budget node h hlt => ?_⟩
    · rw [resolve, activate_of_le h.level]
      exact hP.resolveLevel (fun hs node => hr _ node (h.deeper hs)) hname node
    · rw [decide, activate_of_le h.level]
      exact hP.decideLevel (fun hs node => hr _ node (.deeper_deeper hlt hs))
        (fun hs node => hd _ node (h.deeper hs) hlt) hname node

/-- Deciding a name is deciding it in words. -/
theorem ofName_simulates (hg : 22 ≤ greatest) (fuel : Nat) (name : String) :
    Simulates Eq (Condition.ofName (Resolution.decide fuel) name)
      (Condition.ofName (decide greatest fuel) name) :=
  Condition.ofName_simulates_eq (fun node =>
    (simulates hg fuel).2 {} node (Budget.inWords_start hg) (Budget.limit_start_lt hg)) name

/-- More fuel changes no result. -/
theorem mono (greatest f g : Nat) (hfg : f ≤ g) :
    (∀ budget node, Simulates Eq (resolve greatest f budget node)
      (resolve greatest g budget node)) ∧
    ∀ budget node, Simulates Eq (decide greatest f budget node)
      (decide greatest g budget node) := by
  induction f generalizing g with
  | zero => exact ⟨fun _ _ => .outOfFuel _, fun _ _ => .outOfFuel _⟩
  | succ f ih =>
    obtain ⟨g, rfl⟩ : ∃ n, g = n + 1 := ⟨g - 1, by omega⟩
    have hP := compositional_simulates comparable_eq
    obtain ⟨hr, hd⟩ := ih g (by omega)
    have hname := Condition.ofName_simulates_eq (hd {})
    exact ⟨fun _ node => hP.resolveLevel (fun _ => hr _) hname node,
      fun _ node => hP.decideLevel (fun _ => hr _) (fun _ => hd _) hname node⟩

/-! ### Enough fuel -/

theorem grows (greatest fuel : Nat) :
    (∀ budget node, Evaluation.Grows (resolve greatest fuel budget node)) ∧
      ∀ budget node, Evaluation.Grows (decide greatest fuel budget node) := by
  induction fuel with
  | zero => exact ⟨fun _ _ => .outOfFuel, fun _ _ => .outOfFuel⟩
  | succ fuel ih =>
    have hname := Condition.ofName_grows (ih.2 {})
    exact ⟨fun _ node => compositional_grows.resolveLevel (fun _ => ih.1 _) (fun _ => hname) node,
      fun _ node => compositional_grows.decideLevel (fun _ => ih.1 _) (fun _ => ih.2 _)
        (fun _ => hname) node⟩

/-- What a level wraps around to is all that counts. -/
theorem resolve_wrap (greatest fuel : Nat) (budget : Budget) :
    resolve greatest fuel (budget.wrap greatest) = resolve greatest fuel budget := by
  cases fuel with
  | zero => rfl
  | succ fuel =>
    funext node
    rw [resolve, activate, activate, Budget.wrap, Budget.wrap, Nat.mod_mod]

variable (hg : 22 ≤ greatest) {bound : Nat}

include hg

/-- A walk that goes on at level zero has all levels down to the limit before it. -/
theorem resolve_answers (budget : Budget) (h : budget.limit ≤ greatest)
    (hf : budget.limit + 1 + 21 * bound ≤ fuel) (node : Node) :
    Answers bound (resolve greatest fuel budget node) := by
  have hle : (budget.wrap greatest).remaining ≤ budget.limit :=
    (budget.wrap greatest).remaining_le_limit
  have hanswers := (Resolution.answers fuel).1 bound (budget.wrap greatest) node (by omega)
  rw [← resolve_wrap]
  exact hanswers.of_simulates ((simulates hg fuel).1 _ node (Budget.inWords_wrap h))
    ((grows greatest fuel).1 _ node)

theorem ofName_answers (hf : 21 * bound ≤ fuel) (name : String) :
    Answers bound (Condition.ofName (decide greatest fuel) name) :=
  (Resolution.ofName_answers hf (Resolution.answers fuel).2 name).of_simulates
    (ofName_simulates hg fuel name) (Condition.ofName_grows ((grows greatest fuel).2 {}) name)

/-- Deciding goes down to the limit and may go on in a walk from level zero. -/
theorem decide_answers (fuel : Nat) : ∀ budget : Budget, budget.InWords greatest →
    budget.remaining + budget.limit + 2 + 21 * bound ≤ fuel → ∀ node,
      Answers bound (decide greatest fuel budget node) := by
  induction fuel with
  | zero => exact fun _ _ hf => by omega
  | succ fuel ih =>
    intro budget h hf node
    rw [decide, activate_of_le h.level]
    refine (compositional_answers bound).decideLevel (fun hs node => ?_) (fun hs node => ?_)
      (fun hs => ofName_answers hg (by omega)) node
    · have hfuel : budget.limit + 1 + 21 * bound ≤ fuel := by omega
      exact resolve_answers hg budget.deeper.deeper h.limit hfuel node
    · have hpos := Budget.spent_eq_false_iff.1 hs
      refine ih _ (h.deeper hs) ?_ node
      change budget.deeper.remaining + budget.limit + 2 + 21 * bound ≤ fuel
      rw [Budget.remaining_deeper]
      omega

end Wrapped

/-! ### Operations in words -/

namespace Session

variable {greatest : Nat} (hg : 22 ≤ greatest) (s : Session) {budget : Budget}

theorem run_of_eq_some {α : Type} {s : Session} {x : Evaluation α} {r : α × Session} (fallback : α)
    (h : x s = some r) : s.run x fallback = r := by
  rw [run, h]
  rfl

theorem nesting_le_nestingInWords (budget : Budget) :
    s.nesting budget ≤ s.nestingInWords budget :=
  Nat.le_add_right _ _

include hg

/-- What a session resolves in words is what it resolves. -/
theorem resolveInWords_eq (h : budget.InWords greatest) (node : Node) :
    s.resolveInWords greatest budget node = s.resolveAt budget node := by
  have hmono := Resolution.mono _ _ (s.nesting_le_nestingInWords budget)
  have hrun := (hmono.1 budget node).eq_some (s.resolveAt_spec budget node)
  exact run_of_eq_some node (((Wrapped.simulates hg _).1 budget node h).eq_some hrun)

/-- Deciding in words always has a result. -/
theorem decideInWords_spec (h : budget.InWords greatest) (node : Node) :
    Wrapped.decide greatest (s.nestingInWords budget) budget node s
      = some (s.decideInWords greatest budget node) := by
  have hfuel : budget.remaining + budget.limit + 2 + 21 * s.undecided.length
      ≤ s.nestingInWords budget := by
    rw [nestingInWords, nesting]
    omega
  exact run_spec false ((Wrapped.decide_answers hg _ budget h hfuel node).2 s (Nat.le_refl _))

/-- What it decides in words is what it decides, unless the limit is the greatest word and a
    level passes it. -/
theorem decideInWords_eq (h : budget.InWords greatest) {node : Node}
    (hcounted : budget.limit = greatest →
      ∃ fuel, (Counted.decide greatest fuel budget node s).isSome) :
    s.decideInWords greatest budget node = s.decideAt budget node := by
  rcases Nat.lt_or_eq_of_le h.limit with hlt | heq
  · have hmono := Resolution.mono _ _ (s.nesting_le_nestingInWords budget)
    have hrun := (hmono.2 budget node).eq_some (s.decideAt_spec budget node)
    exact run_of_eq_some false (((Wrapped.simulates hg _).2 budget node h hlt).eq_some hrun)
  · -- The counted run is a run of either, and neither has another result.
    obtain ⟨fuel, hsome⟩ := hcounted heq
    obtain ⟨r, hr⟩ := Option.isSome_iff_exists.1 hsome
    have hwords : r = s.decideInWords greatest budget node :=
      eq_of_simulates (x := fun f => Wrapped.decide greatest f budget node)
        (fun f g hfg => (Wrapped.mono greatest f g hfg).2 budget node)
        (((Wrapped.of_counted greatest fuel).2 budget node).eq_some hr)
        (s.decideInWords_spec hg h node)
    have hlevels : r = s.decideAt budget node :=
      eq_of_simulates (x := fun f => Resolution.decide f budget node)
        (fun f g hfg => (Resolution.mono f g hfg).2 budget node)
        (((Resolution.of_counted greatest fuel).2 budget node).eq_some hr)
        (s.decideAt_spec budget node)
    exact hwords.symm.trans hlevels

/-- What it expands in words is what it expands, if a word comes after the level. -/
theorem expandInWords_eq (h : budget.limit ≤ greatest) (hlt : budget.level < greatest)
    (node : Node) : s.expandInWords greatest budget node = s.expandAt budget node := by
  have hmono := Resolution.mono _ _ (s.nesting_le_nestingInWords budget)
  have hdeeper : budget.deeper.InWords greatest := ⟨hlt, h⟩
  have hrun := (expand_simulates (hmono.1 budget.deeper)
    (Condition.ofName_simulates_eq (hmono.2 {})) node).eq_some (s.expandAt_spec budget node)
  have hwrapped := (expand_simulates (fun node => (Wrapped.simulates hg _).1 _ node hdeeper)
    (Wrapped.ofName_simulates hg _) node).eq_some hrun
  exact run_of_eq_some none hwrapped

/-- Expanding a node in words always has a result. -/
theorem expandInWords_spec (h : budget.limit ≤ greatest) (node : Node) :
    Wrapped.expand greatest (s.nestingInWords budget) budget node s
      = some (s.expandInWords greatest budget node) := by
  have hfuel : budget.limit + 1 + 21 * s.undecided.length ≤ s.nestingInWords budget := by
    rw [nestingInWords, nesting]
    omega
  have hr := Wrapped.resolve_answers hg budget.deeper h hfuel
  have hh := Wrapped.ofName_answers hg
    (show 21 * s.undecided.length ≤ s.nestingInWords budget by omega)
  exact run_spec none (((compositional_answers _).expand hr hh node).2 s (Nat.le_refl _))

end Session

end SamTemplate
