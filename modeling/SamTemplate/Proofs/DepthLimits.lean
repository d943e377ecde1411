import SamTemplate.Proofs.WordLevels

/-!
# Depth limits

A walk uses up the levels of its budget at different rates: one for a container or a
call, two for the operands of a condition, none for a named condition, which starts
from level zero. Where no level is left, a notice says so. Hence the level and the
limit never show in a result without one: what is answered without such a notice is
answered in the same way with any budget that has at least as many levels left.

This is said of levels in words, and there is one exception. With the greatest word for a
limit, the operands of a condition can be a level past it. They are resolved from level
zero then, and no notice says that there was no level left
(`Session.answers_past_greatest`).

* `Counted.carries`: the runs within a budget that report no cut are runs within any
  budget with as many levels left, and no level passes the greatest word there;
* `Session.answers_of_remaining_le`: so a new session gives the same answer, and is
  left in the same state.
-/

namespace SamTemplate

open Evaluation

/-! ### Notices of a cut -/

namespace Notice

theorem prefix_depthMessage (limit : Nat) (rest : String) :
    "maximum resolve depth".toList
      <+: ("maximum resolve depth " ++ natText limit ++ rest).toList := by
  have hp : "maximum resolve depth".toList <+: "maximum resolve depth ".toList := by decide
  rw [String.toList_append, String.toList_append, List.append_assoc]
  exact hp.trans (List.prefix_append _ _)

theorem prefix_message_depthExceeded (limit : Nat) :
    "maximum resolve depth".toList <+: (depthExceeded limit).message.toList :=
  prefix_depthMessage limit " exceeded; leaving value unresolved"

theorem prefix_message_conditionDepth (limit : Nat) :
    "maximum resolve depth".toList <+: (conditionDepth limit).message.toList :=
  prefix_depthMessage limit " exceeded while evaluating a condition"

end Notice

/-- Some message tells that something was cut off for its depth. -/
def Warnings.ReportsDepth (warnings : Warnings) : Prop :=
  ∃ message ∈ warnings.messages, "maximum resolve depth".toList <+: message.toList

instance (warnings : Warnings) : Decidable warnings.ReportsDepth :=
  inferInstanceAs (Decidable (∃ message ∈ warnings.messages, _))

namespace Session

variable {s t : Session}

theorem reportsDepth_note {notice : Notice}
    (h : "maximum resolve depth".toList <+: notice.message.toList) :
    (s.note notice).warnings.ReportsDepth :=
  ⟨_, (Warnings.mem_add _ _ _).2 (.inr rfl), h⟩

theorem Grows.reportsDepth (h : s.Grows t) (hs : s.warnings.ReportsDepth) :
    t.warnings.ReportsDepth := by
  obtain ⟨message, hmem, hp⟩ := hs
  exact ⟨message, h.warnings.subset hmem, hp⟩

end Session

/-! ### Runs that report no cut -/

namespace Evaluation

variable {α β : Type}

/-- The runs of the first computation that report no cut are runs of the second; the
    first one lets its session grow. -/
def Carries (x y : Evaluation α) : Prop :=
  Grows x ∧ ∀ s a t, ¬ t.warnings.ReportsDepth → x s = some (a, t) → y s = some (a, t)

namespace Carries

theorem refl {x : Evaluation α} (h : Grows x) : Carries x x := ⟨h, fun _ _ _ _ hx => hx⟩

theorem bind {x y : Evaluation α} {f g : α → Evaluation β} (hx : Carries x y)
    (hf : ∀ a, Carries (f a) (g a)) : Carries (x >>= f) (y >>= g) := by
  refine ⟨.bind hx.1 fun a => (hf a).1, fun s b t ht hb => ?_⟩
  obtain ⟨a, u, ha, hb⟩ := bind_eq_some_iff.1 hb
  -- What is reported by the first part is still reported at the end.
  have hu : ¬ u.warnings.ReportsDepth := fun hu => ht (((hf a).1 u b t hb).reportsDepth hu)
  exact bind_eq_some_iff.2 ⟨a, u, hx.2 s a u hu ha, (hf a).2 u b t ht hb⟩

theorem of_simulates {x y : Evaluation α} (hx : Grows x) (h : Simulates Eq x y) : Carries x y :=
  ⟨hx, fun _ _ _ _ hrun => h.eq_some hrun⟩

/-- A computation that notes a cut carries over to any other one. -/
theorem of_note {notice : Notice}
    (h : "maximum resolve depth".toList <+: notice.message.toList) (a : α) (y : Evaluation α) :
    Carries (do note notice; return a) y := by
  refine ⟨.bind (.note notice) fun _ => .pure a, fun s b t ht hb => ?_⟩
  obtain ⟨⟨⟩, u, hnote, hpure⟩ := bind_eq_some_iff.1 hb
  cases hnote
  obtain ⟨-, rfl⟩ := pure_eq_some_iff.1 hpure
  exact absurd (Session.reportsDepth_note h) ht

end Carries

theorem compositional_carries : CompositionalTwo fun _ x y => Carries x y where
  pure a := .refl (.pure a)
  bind := .bind
  note notice := .refl (.note notice)
  read hf := ⟨.read fun p => (hf p).1, fun s a t ht ha => (hf s.parameters).2 s a t ht ha⟩

end Evaluation

namespace Budget

variable {budget budget' : Budget}

/-- Where a level is left, one is left in a budget with as many. -/
theorem spent_eq_false_of_remaining_le (h : budget.remaining ≤ budget'.remaining)
    (hs : budget.spent = false) : budget'.spent = false := by
  simp only [spent, decide_eq_false_iff_not, remaining] at *
  omega

/-- A level that is not the last is below any word that the limit is not above. -/
theorem level_lt {greatest : Nat} (h : budget.limit ≤ greatest) (hs : budget.spent = false) :
    budget.level < greatest := by
  simp only [spent, decide_eq_false_iff_not] at hs
  omega

theorem remaining_deeper_le (h : budget.remaining ≤ budget'.remaining) :
    budget.deeper.remaining ≤ budget'.deeper.remaining := by
  rw [remaining_deeper, remaining_deeper]
  omega

end Budget

/-! ### Levels within two budgets -/

/-- A level of a walk knows its budget only by what it hands on. -/
theorem walkStep_of_not_spent {m : Type → Type} [Monad m]
    {expand : Budget → Node → m (Option Node)} {cutOff : Budget → Node → m Unit}
    {below : Budget → Node → m Node} {budget : Budget} (h : budget.spent = false) (node : Node) :
    walkStep expand cutOff below budget node
      = walkStep (fun _ => expand budget) cutOff (fun _ => below budget.deeper) {} node := by
  unfold walkStep
  rw [h]
  rfl

/-- A level of deciding knows its budget only by what it hands on, too. -/
theorem Condition.decideStep_of_not_spent {resolve : Budget → Node → Evaluation Node}
    {decide : Budget → Node → Evaluation Bool} {budget : Budget} (h : budget.spent = false)
    (node : Node) :
    decideStep resolve decide budget node
      = if ({} : Budget).spent then Evaluation.deny (.conditionDepth ({} : Budget).limit)
        else ofNode (resolve budget.deeper.deeper) (decide budget.deeper) (ofName decide) node := by
  have hstart : ({} : Budget).spent = false := rfl
  rw [decideStep, h, hstart, if_neg Bool.false_ne_true, if_neg Bool.false_ne_true]

namespace CompositionalTwo

variable {Q : (α : Type) → Evaluation α → Evaluation α → Prop} (hQ : CompositionalTwo Q)
  {budget budget' : Budget} (hs : budget.spent = false) (hs' : budget'.spent = false)
  {resolve resolve' : Budget → Node → Evaluation Node}
  {decide decide' : Budget → Node → Evaluation Bool} {holds holds' : String → Evaluation Bool}

include hQ hs hs'

/-- One level of resolving, within a budget on either side that is not spent. -/
theorem resolveLevel_of_not_spent
    (hr : ∀ node, Q Node (resolve budget.deeper node) (resolve' budget'.deeper node))
    (hh : ∀ name, Q Bool (holds name) (holds' name)) (node : Node) :
    Q Node
      (SamTemplate.walkStep
        (fun budget node => Intrinsic.expand (resolve budget.deeper) holds node)
        (fun budget _ => Evaluation.note (.depthExceeded budget.limit)) resolve budget node)
      (SamTemplate.walkStep
        (fun budget node => Intrinsic.expand (resolve' budget.deeper) holds' node)
        (fun budget _ => Evaluation.note (.depthExceeded budget.limit)) resolve' budget' node) := by
  rw [walkStep_of_not_spent hs, walkStep_of_not_spent hs']
  exact @resolveLevel _ hQ {} (fun _ => resolve budget.deeper) (fun _ => resolve' budget'.deeper)
    _ _ (fun _ => hr) hh node

/-- One level of deciding, within a budget on either side that is not spent. -/
theorem decideStep_of_not_spent
    (hr : ∀ node, Q Node (resolve budget.deeper.deeper node) (resolve' budget'.deeper.deeper node))
    (hd : ∀ node, Q Bool (decide budget.deeper node) (decide' budget'.deeper node))
    (hh : ∀ name, Q Bool (Condition.ofName decide name) (Condition.ofName decide' name))
    (node : Node) :
    Q Bool (Condition.decideStep resolve decide budget node)
      (Condition.decideStep resolve' decide' budget' node) := by
  rw [Condition.decideStep_of_not_spent hs, Condition.decideStep_of_not_spent hs']
  exact @decideLevel _ hQ {} (fun _ => resolve budget.deeper.deeper)
    (fun _ => resolve' budget'.deeper.deeper) (fun _ => decide budget.deeper)
    (fun _ => decide' budget'.deeper) _ _ (fun _ => hr) (fun _ => hd) hh node

end CompositionalTwo

namespace Resolution

variable {fuel : Nat} {budget budget' : Budget}

theorem resolve_carries_of_spent (h : budget.spent) (node : Node) (y : Evaluation Node) :
    Carries (resolve (fuel + 1) budget node) y := by
  rw [resolve]
  unfold walkStep
  rw [if_pos h]
  exact .of_note (Notice.prefix_message_depthExceeded _) node y

theorem decide_carries_of_spent (h : budget.spent) (node : Node) (y : Evaluation Bool) :
    Carries (decide (fuel + 1) budget node) y := by
  rw [decide, Condition.decideStep, if_pos h]
  exact .of_note (Notice.prefix_message_conditionDepth _) false y

end Resolution

/-- The runs within a budget that report no cut are runs within any budget that has at least as
    many levels left, and whose limit is a word: there no level passes the greatest word. -/
theorem Counted.carries {greatest : Nat} (hg : 22 ≤ greatest) (fuel : Nat) :
    (∀ budget budget' : Budget, budget.remaining ≤ budget'.remaining → budget'.limit ≤ greatest →
      ∀ node, Carries (Resolution.resolve fuel budget node) (resolve greatest fuel budget' node)) ∧
    ∀ budget budget' : Budget, budget.remaining ≤ budget'.remaining → budget'.limit ≤ greatest →
      ∀ node, Carries (Resolution.decide fuel budget node) (decide greatest fuel budget' node) := by
  induction fuel with
  | zero =>
    exact ⟨fun _ _ _ _ _ => .of_simulates .outOfFuel (.outOfFuel _),
      fun _ _ _ _ _ => .of_simulates .outOfFuel (.outOfFuel _)⟩
  | succ fuel ih =>
    obtain ⟨hr, hd⟩ := ih
    have hP := compositional_carries
    -- A named condition starts from level zero on both sides.
    have hzero : Fits greatest {} := ⟨show 0 < greatest by omega, hg⟩
    have hname (name : String) := Carries.of_simulates
      (Condition.ofName_grows ((Resolution.grows fuel).2 {}) name)
      (Condition.ofName_simulates_eq (fun node => (simulates hzero fuel).2 {} node hzero) name)
    refine ⟨fun budget budget' h hlimit node => ?_, fun budget budget' h hlimit node => ?_⟩
    · cases hs : budget.spent with
      | true => exact Resolution.resolve_carries_of_spent hs node _
      | false =>
        have hs' := Budget.spent_eq_false_of_remaining_le h hs
        rw [Resolution.resolve, resolve, activate_of_lt (Budget.level_lt hlimit hs')]
        exact hP.resolveLevel_of_not_spent hs hs' (hr _ _ (Budget.remaining_deeper_le h) hlimit)
          hname node
    · cases hs : budget.spent with
      | true => exact Resolution.decide_carries_of_spent hs node _
      | false =>
        have hs' := Budget.spent_eq_false_of_remaining_le h hs
        have hdeeper := Budget.remaining_deeper_le h
        rw [Resolution.decide, decide, activate_of_lt (Budget.level_lt hlimit hs')]
        exact hP.decideStep_of_not_spent hs hs' (hr _ _ (Budget.remaining_deeper_le hdeeper) hlimit)
          (hd _ _ hdeeper hlimit) hname node

namespace Session

variable {greatest : Nat} (hg : 22 ≤ greatest) {s : Session} {budget budget' : Budget} {node : Node}

theorem nesting_le_nestingInWords_of_remaining_le (s : Session)
    (h : budget.remaining ≤ budget'.remaining) : s.nesting budget ≤ s.nestingInWords budget' := by
  rw [nestingInWords, nesting, nesting]
  omega

include hg

theorem resolveInWords_of_remaining_le (hb' : budget'.limit ≤ greatest)
    (h : budget.remaining ≤ budget'.remaining)
    (hs : ¬ (s.resolveAt budget node).2.warnings.ReportsDepth) :
    s.resolveInWords greatest budget' node = s.resolveAt budget node := by
  have hmono := Resolution.mono _ _ (s.nesting_le_nestingInWords_of_remaining_le h)
  have hrun := (hmono.1 budget node).eq_some (s.resolveAt_spec budget node)
  have hcounted := ((Counted.carries hg _).1 budget budget' h hb' node).2 s _ _ hs hrun
  exact run_of_eq_some node (((Wrapped.of_counted greatest _).1 budget' node).eq_some hcounted)

theorem decideInWords_of_remaining_le (hb' : budget'.limit ≤ greatest)
    (h : budget.remaining ≤ budget'.remaining)
    (hs : ¬ (s.decideAt budget node).2.warnings.ReportsDepth) :
    s.decideInWords greatest budget' node = s.decideAt budget node := by
  have hmono := Resolution.mono _ _ (s.nesting_le_nestingInWords_of_remaining_le h)
  have hrun := (hmono.2 budget node).eq_some (s.decideAt_spec budget node)
  have hcounted := ((Counted.carries hg _).2 budget budget' h hb' node).2 s _ _ hs hrun
  exact run_of_eq_some false (((Wrapped.of_counted greatest _).2 budget' node).eq_some hcounted)

omit hg

/-- What a new session answers without reporting a cut, it answers with any budget that has at
    least as many levels left, and it is left in the same state: with the same notices and the
    same decided conditions.

    Levels are words. Where the limit is the greatest word, deciding must not count a level past
    it: what starts again at level zero should have been cut off. -/
theorem answers_of_remaining_le (greatest : Nat) (hg : 22 ≤ greatest) (parameters : Parameters)
    (conditions : Entries Node) (budget budget' : Budget) (hb : budget.InWords greatest)
    (hb' : budget'.InWords greatest)
    (h : budget.limit - budget.level ≤ budget'.limit - budget'.level) (node : Node) :
    (¬ ((start parameters conditions).resolveInWords greatest budget node).2.warnings.ReportsDepth →
      (start parameters conditions).resolveInWords greatest budget' node
        = (start parameters conditions).resolveInWords greatest budget node) ∧
    ((budget.limit = greatest → ∃ fuel,
        (Counted.decide greatest fuel budget node (start parameters conditions)).isSome) →
      ¬ ((start parameters conditions).decideInWords greatest budget node).2.warnings.ReportsDepth →
      (start parameters conditions).decideInWords greatest budget' node
        = (start parameters conditions).decideInWords greatest budget node) := by
  refine ⟨fun hs => ?_, fun hcounted hs => ?_⟩
  · rw [resolveInWords_eq hg _ hb] at hs ⊢
    exact resolveInWords_of_remaining_le hg hb'.limit h hs
  · rw [decideInWords_eq hg _ hb hcounted] at hs ⊢
    exact decideInWords_of_remaining_le hg hb'.limit h hs

/-- A parameter that stands for another one. -/
def redirected : Parameters :=
  (Bindings.empty.insert "Stage" "$\x7bTarget\x7d").insert "Target" "prod"

/-- A condition that is negated twice and compares a parameter. -/
def guarded : Entries Node :=
  [("IsProd", .call "Fn::Not" (.seq [.call "Fn::Not" (.seq [
    .call "Fn::Equals" (.seq [.call "Ref" (.str "Stage"), .str "prod"])])]))]

/-- A choice by the condition with just the levels it needs, and further down with more; a
    conjunction with the last levels before the greatest word of 64 bits, and with as many
    before the usual limit. -/
theorem answers_guarded :
    (start redirected guarded).resolveInWords (UInt64.size - 1) ⟨12, 20⟩
        (.seq [.call "Fn::If" (.seq [.str "IsProd", .str "$\x7bStage\x7d", .null])])
      = (start redirected guarded).resolveInWords (UInt64.size - 1) ⟨0, 5⟩
        (.seq [.call "Fn::If" (.seq [.str "IsProd", .str "$\x7bStage\x7d", .null])]) ∧
    (start redirected guarded).decideInWords (UInt64.size - 1) ⟨18, 20⟩
        (.call "Fn::And" (.seq [.bool true, .call "Condition" (.str "IsProd")]))
      = (start redirected guarded).decideInWords (UInt64.size - 1)
        ⟨UInt64.size - 3, UInt64.size - 1⟩
        (.call "Fn::And" (.seq [.bool true, .call "Condition" (.str "IsProd")])) :=
  ⟨(answers_of_remaining_le (UInt64.size - 1) (by decide) redirected guarded ⟨0, 5⟩ ⟨12, 20⟩
      ⟨by decide, by decide⟩ ⟨by decide, by decide⟩ (by decide)
      (.seq [.call "Fn::If" (.seq [.str "IsProd", .str "$\x7bStage\x7d", .null])])).1 (by decide),
    (answers_of_remaining_le (UInt64.size - 1) (by decide) redirected guarded
      ⟨UInt64.size - 3, UInt64.size - 1⟩ ⟨18, 20⟩
      ⟨by decide, by decide⟩ ⟨by decide, by decide⟩ (by decide)
      (.call "Fn::And" (.seq [.bool true, .call "Condition" (.str "IsProd")]))).2
      (fun _ => ⟨8, by decide⟩) (by decide)⟩

/-- Two texts are compared with one level left. Where that is the last one before the greatest
    word of 64 bits, they are resolved from level zero, and nothing is reported; where it is
    level zero itself, both are cut off. -/
theorem answers_past_greatest :
    UInt64.size - 1 - (UInt64.size - 2) ≤ 1 - 0 ∧
    ¬ ((start .empty []).decideInWords (UInt64.size - 1) ⟨UInt64.size - 2, UInt64.size - 1⟩
      (.call "Fn::Equals" (.seq [.str "a", .str "a"]))).2.warnings.ReportsDepth ∧
    (start .empty []).decideInWords (UInt64.size - 1) ⟨0, 1⟩
        (.call "Fn::Equals" (.seq [.str "a", .str "a"]))
      ≠ (start .empty []).decideInWords (UInt64.size - 1) ⟨UInt64.size - 2, UInt64.size - 1⟩
        (.call "Fn::Equals" (.seq [.str "a", .str "a"])) := by
  have hquiet : ¬ ((start .empty []).decideInWords (UInt64.size - 1)
      ⟨UInt64.size - 2, UInt64.size - 1⟩
      (.call "Fn::Equals" (.seq [.str "a", .str "a"]))).2.warnings.ReportsDepth := by decide
  refine ⟨by decide, hquiet, fun h => hquiet ?_⟩
  rw [← h]
  decide

end Session

end SamTemplate
