import SamTemplate.Resolution.Basic

/-!
# Properties of computations

A computation in a session is put together from steps, and most of what can be
said of it passes from the steps to the whole. A *compositional* property is one
that does: it holds of what only returns a value, notes a notice or reads the
parameters, and of one computation after another. It is a property of a family
of computations, so that it can speak of one computation, compare two, or
compare one with a run for each amount of fuel.

* `Evaluation.bind_eq_some_iff`: a run of one computation after another is a run
  of each;
* `Compositional.resolveLevel`, `Compositional.decideLevel`: one level of resolving
  or deciding has every compositional property that the levels below have.
-/

namespace SamTemplate

namespace Evaluation

variable {α β : Type} {s t : Session}

/-- A run of one computation after another. -/
theorem bind_eq_some_iff {x : Evaluation α} {f : α → Evaluation β} {b : β} :
    (x >>= f) s = some (b, t) ↔ ∃ a u, x s = some (a, u) ∧ f a u = some (b, t) := by
  change (x s).bind (fun p => f p.1 p.2) = _ ↔ _
  simp [Option.bind_eq_some_iff]

/-- A run that only returns a value. -/
theorem pure_eq_some_iff {a b : α} : (pure a : Evaluation α) s = some (b, t) ↔ a = b ∧ s = t := by
  change some (a, s) = some (b, t) ↔ _
  simp

theorem note_apply (notice : Notice) : note notice s = some ((), s.note notice) := rfl

theorem get_bind_apply (f : Session → Evaluation α) : (get >>= f) s = f s s := rfl

theorem modify_bind_apply (g : Session → Session) (f : PUnit → Evaluation α) :
    (modify g >>= f) s = f ⟨⟩ (g s) := rfl

end Evaluation

/-- A property of families of computations that passes from the steps of a
    computation to the whole. -/
structure Compositional {ι : Type} (P : (α : Type) → (ι → Evaluation α) → Prop) : Prop where
  /-- It holds of what only returns a value. -/
  pure : ∀ {α : Type} (a : α), P α fun _ => pure a
  /-- It holds of one computation after another. -/
  bind : ∀ {α β : Type} {x : ι → Evaluation α} {f : ι → α → Evaluation β},
    P α x → (∀ a, P β fun i => f i a) → P β fun i => x i >>= f i
  /-- It holds of noting a notice. -/
  note : ∀ notice : Notice, P Unit fun _ => Evaluation.note notice
  /-- It holds of reading the parameters. -/
  read : ∀ {α : Type} {f : ι → Parameters → Evaluation α},
    (∀ parameters, P α fun i => f i parameters) → P α fun i => do f i (← get).parameters

namespace Compositional

variable {ι α β : Type} {P : (α : Type) → (ι → Evaluation α) → Prop} (hP : Compositional P)

section
include hP

theorem decline (notice : Notice) : P (Option α) fun _ => Evaluation.decline notice :=
  hP.bind (hP.note notice) fun _ => hP.pure none

theorem deny (notice : Notice) : P Bool fun _ => Evaluation.deny notice :=
  hP.bind (hP.note notice) fun _ => hP.pure false

/-- It holds of a computation for each element of a list, one after the other. -/
theorem mapM {f : ι → α → Evaluation β} (hf : ∀ a, P β fun i => f i a) (l : List α) :
    P (List β) fun i => l.mapM (f i) := by
  induction l with
  | nil => simpa only [List.mapM_nil] using hP.pure []
  | cons a l ih =>
    simp only [List.mapM_cons]
    exact hP.bind (hf a) fun b => hP.bind ih fun bs => hP.pure (b :: bs)

/-! ### Intrinsic functions -/

variable {resolve : ι → Node → Evaluation Node} {holds : ι → String → Evaluation Bool}
  {decide : ι → Node → Evaluation Bool} (hr : ∀ node, P Node fun i => resolve i node)
  (hd : ∀ node, P Bool fun i => decide i node) (hh : ∀ name, P Bool fun i => holds i name)

section Operands

include hr

theorem resolveText (operand : Node) :
    P String fun i => Intrinsic.resolveText (resolve i) operand :=
  hP.bind (hr operand) fun node => hP.pure node.text

/-- It holds of binding variables, each in the scope of the ones before. -/
theorem bindVariables (scope : Parameters) (locals : List (String × Node)) :
    P Parameters fun i => Intrinsic.bindVariables (resolve i) scope locals := by
  -- Each variable changes the scope that the next ones are bound in.
  induction locals generalizing scope with
  | nil => exact hP.pure scope
  | cons pair locals ih =>
    exact hP.bind (hP.resolveText hr pair.2) fun text => ih (scope.insert pair.1 text)

theorem applyRef (operand : Node) :
    P (Option Node) fun i => Intrinsic.applyRef (resolve i) operand := by
  refine hP.bind (hr operand) fun target => ?_
  cases target with
  | str name =>
    -- The parameters are read after the operand is resolved, which may have noted something.
    exact hP.read (f := fun _ parameters =>
      Pure.pure (some (Node.str ((parameters.valueOf? name.toList).getD name)))) fun _ => hP.pure _
  | _ => exact hP.decline _

theorem applySub (operand : Node) :
    P (Option Node) fun i => Intrinsic.applySub (resolve i) operand := by
  unfold Intrinsic.applySub
  split
  · rename_i template
    exact hP.read (f := fun _ parameters =>
      Pure.pure (some (Node.str (interpolate parameters template)))) fun _ => hP.pure _
  · rename_i template locals
    split
    · exact hP.decline _
    · -- The variables are bound on top of the parameters, in a scope of their own.
      exact hP.read (f := fun i parameters => do
        let scope ← Intrinsic.bindVariables (resolve i) parameters locals
        return some (Node.str (interpolate scope template)))
        fun scope => hP.bind (hP.bindVariables hr scope locals) fun _ => hP.pure _
  all_goals exact hP.decline _

theorem applyJoin (operand : Node) :
    P (Option Node) fun i => Intrinsic.applyJoin (resolve i) operand := by
  unfold Intrinsic.applyJoin
  split
  · refine hP.bind (hP.resolveText hr _) fun separator => hP.bind (hr _) fun elements => ?_
    cases elements with
    | seq items => exact hP.bind (hP.mapM (hP.resolveText hr) items) fun _ => hP.pure _
    | _ => exact hP.decline _
  · exact hP.decline _

theorem applyGetAtt (operand : Node) :
    P (Option Node) fun i => Intrinsic.applyGetAtt (resolve i) operand := by
  unfold Intrinsic.applyGetAtt
  split
  · split
    · split
      · exact hP.pure _
      · exact hP.decline _
    · exact hP.decline _
  · exact hP.bind (hP.resolveText hr _) fun _ => hP.bind (hP.resolveText hr _) fun _ => hP.pure _
  all_goals exact hP.decline _

theorem applySplit (operand : Node) :
    P (Option Node) fun i => Intrinsic.applySplit (resolve i) operand := by
  unfold Intrinsic.applySplit
  split
  · refine hP.bind (hP.resolveText hr _) fun delimiter => ?_
    by_cases hd : delimiter = ""
    · simpa only [if_pos hd] using hP.decline _
    · simpa only [if_neg hd] using hP.bind (hP.resolveText hr _) fun _ => hP.pure _
  · exact hP.decline _

theorem applySelect (operand : Node) :
    P (Option Node) fun i => Intrinsic.applySelect (resolve i) operand := by
  unfold Intrinsic.applySelect
  split
  · refine hP.bind (hr _) fun index => hP.bind (hr _) fun list => ?_
    cases list with
    | seq elements =>
      dsimp only
      cases Intrinsic.elementAt? elements index with
      | none => exact hP.decline _
      | some element => exact hP.pure _
    | _ => exact hP.decline _
  · exact hP.decline _

end Operands

include hh in
/-- It holds of a choice if it does of deciding conditions. -/
theorem applyChoose (operand : Node) :
    P (Option Node) fun i => Intrinsic.applyChoose (holds i) operand := by
  unfold Intrinsic.applyChoose
  split
  · exact hP.bind (hh _) fun _ => hP.pure _
  · exact hP.decline _

section Calls

include hr hh

/-- What a function makes of its operand. -/
theorem apply (function : Intrinsic) (operand : Node) :
    P (Option Node) fun i => Intrinsic.apply (resolve i) (holds i) function operand := by
  cases function with
  | ref => exact hP.applyRef hr operand
  | choose => exact hP.applyChoose hh operand
  | sub => exact hP.applySub hr operand
  | join => exact hP.applyJoin hr operand
  | getAtt => exact hP.applyGetAtt hr operand
  | split => exact hP.applySplit hr operand
  | select => exact hP.applySelect hr operand
  | importValue => exact hP.bind (hP.resolveText hr operand) fun _ => hP.pure _

/-- Expanding a node. -/
theorem expand (node : Node) :
    P (Option Node) fun i => Intrinsic.expand (resolve i) (holds i) node := by
  unfold Intrinsic.expand
  split
  · rename_i text
    exact hP.read (f := fun _ parameters =>
      Pure.pure (if interpolate parameters text = text then none
        else some (Node.str (interpolate parameters text)))) fun _ => hP.pure _
  · split
    · exact hP.pure none
    · split
      · exact hP.pure none
      · exact hP.apply hr hh _ _

end Calls

/-! ### Conditions -/

include hd in
theorem allHold (operands : List Node) :
    P Bool fun i => Condition.allHold (decide i) operands := by
  induction operands with
  | nil => exact hP.pure true
  | cons operand operands ih =>
    refine hP.bind (hd operand) fun value => ?_
    cases value with
    | false => exact hP.pure false
    | true => exact ih

include hd in
theorem someHold (operands : List Node) :
    P Bool fun i => Condition.someHold (decide i) operands := by
  induction operands with
  | nil => exact hP.pure false
  | cons operand operands ih =>
    refine hP.bind (hd operand) fun value => ?_
    cases value with
    | false => exact ih
    | true => exact hP.pure true

include hr hd hh in
/-- It holds of each form of conditions if it does of what the operands need. -/
theorem ofForm (form : Condition.Form) (operand : Node) :
    P Bool fun i => Condition.ofForm (resolve i) (decide i) (holds i) form operand := by
  unfold Condition.ofForm
  split
  · exact hP.bind (hr _) fun _ => hP.bind (hr _) fun _ => hP.pure _
  · exact hP.deny _
  · exact hP.bind (hd _) fun _ => hP.pure _
  · exact hP.deny _
  · exact hP.allHold hd _
  · exact hP.deny _
  · exact hP.someHold hd _
  · exact hP.deny _
  · exact hh _

include hr in
theorem ofValue (node : Node) :
    P Bool fun i => Condition.ofValue (resolve i) node := by
  refine hP.bind (hr node) fun value => ?_
  cases value with
  | bool value => exact hP.pure value
  | str text => exact hP.pure (spellsTrue text)
  | _ => exact hP.deny _

include hr hd hh in
/-- Deciding an expression. -/
theorem ofNode (node : Node) :
    P Bool fun i => Condition.ofNode (resolve i) (decide i) (holds i) node := by
  unfold Condition.ofNode
  split
  · exact hP.pure _
  · exact hP.pure _
  · split
    · exact hP.ofForm hr hd hh _ _
    · exact hP.ofValue hr _

/-! ### Walks -/

/-- One level of a walk, where the levels below are only asked for if the
    budget is not spent. -/
theorem walkStep {expand : ι → Budget → Node → Evaluation (Option Node)}
    {cutOff : ι → Budget → Node → Evaluation Unit} {below : ι → Budget → Node → Evaluation Node}
    {budget : Budget} (hc : ∀ node, P Unit fun i => cutOff i budget node)
    (he : budget.spent = false → ∀ node, P (Option Node) fun i => expand i budget node)
    (hb : budget.spent = false → ∀ node, P Node fun i => below i budget.deeper node)
    (node : Node) :
    P Node fun i => SamTemplate.walkStep (expand i) (cutOff i) (below i) budget node := by
  unfold SamTemplate.walkStep
  cases hs : budget.spent with
  | true =>
    simp only [if_true]
    exact hP.bind (hc node) fun _ => hP.pure node
  | false =>
    simp only [Bool.false_eq_true, if_false]
    refine hP.bind (he hs node) fun expanded => ?_
    cases expanded with
    | some expanded => exact hb hs expanded
    | none =>
      cases node with
      | seq items => exact hP.bind (hP.mapM (hb hs) items) fun _ => hP.pure _
      | map entries =>
        exact hP.bind (hP.mapM (fun pair => hP.bind (hb hs pair.2) fun _ => hP.pure _) entries)
          fun _ => hP.pure _
      | _ => exact hP.pure _

/-! ### Levels -/

variable {budget : Budget}

/-- One level of resolving, if the levels below have the property. -/
theorem resolveLevel {resolve : ι → Budget → Node → Evaluation Node}
    (hr : budget.spent = false → ∀ node, P Node fun i => resolve i budget.deeper node)
    (hh : budget.spent = false → ∀ name, P Bool fun i => holds i name) (node : Node) :
    P Node fun i => SamTemplate.walkStep
      (fun budget node => Intrinsic.expand (resolve i budget.deeper) (holds i) node)
      (fun budget _ => Evaluation.note (.depthExceeded budget.limit)) (resolve i) budget node :=
  hP.walkStep (fun _ => hP.note _) (fun hs => hP.expand (hr hs) (hh hs)) hr node

/-- One level of deciding, if the levels below have the property. -/
theorem decideLevel {resolve : ι → Budget → Node → Evaluation Node}
    {decide : ι → Budget → Node → Evaluation Bool}
    (hr : budget.spent = false → ∀ node, P Node fun i => resolve i budget.deeper.deeper node)
    (hd : budget.spent = false → ∀ node, P Bool fun i => decide i budget.deeper node)
    (hh : budget.spent = false → ∀ name, P Bool fun i => holds i name) (node : Node) :
    P Bool fun i => if budget.spent then Evaluation.deny (.conditionDepth budget.limit)
      else Condition.ofNode (resolve i budget.deeper.deeper) (decide i budget.deeper) (holds i)
        node := by
  cases hs : budget.spent with
  | true => exact hP.deny _
  | false => exact hP.ofNode (hr hs) (hd hs) (hh hs) node

end

end Compositional

/-! ### Single computations -/

/-- A compositional property of single computations. -/
abbrev CompositionalOne (Q : (α : Type) → Evaluation α → Prop) : Prop :=
  Compositional fun α (x : Unit → Evaluation α) => Q α (x ())

namespace CompositionalOne

variable {Q : (α : Type) → Evaluation α → Prop} (hQ : CompositionalOne Q) {budget : Budget}
  {fuel : Nat}

include hQ

theorem expand {resolve : Node → Evaluation Node} {holds : String → Evaluation Bool}
    (hr : ∀ node, Q Node (resolve node)) (hh : ∀ name, Q Bool (holds name)) (node : Node) :
    Q (Option Node) (Intrinsic.expand resolve holds node) :=
  @Compositional.expand Unit _ hQ (fun _ => resolve) (fun _ => holds) hr hh node

theorem resolveLevel {resolve : Budget → Node → Evaluation Node} {holds : String → Evaluation Bool}
    (hr : budget.spent = false → ∀ node, Q Node (resolve budget.deeper node))
    (hh : budget.spent = false → ∀ name, Q Bool (holds name)) (node : Node) :
    Q Node
      (SamTemplate.walkStep
        (fun budget node => Intrinsic.expand (resolve budget.deeper) holds node)
        (fun budget _ => Evaluation.note (.depthExceeded budget.limit)) resolve budget node) :=
  @Compositional.resolveLevel Unit _ hQ (fun _ => holds) budget (fun _ => resolve) hr hh node

theorem decideLevel {resolve : Budget → Node → Evaluation Node}
    {decide : Budget → Node → Evaluation Bool} {holds : String → Evaluation Bool}
    (hr : budget.spent = false → ∀ node, Q Node (resolve budget.deeper.deeper node))
    (hd : budget.spent = false → ∀ node, Q Bool (decide budget.deeper node))
    (hh : budget.spent = false → ∀ name, Q Bool (holds name)) (node : Node) :
    Q Bool
      (if budget.spent then Evaluation.deny (.conditionDepth budget.limit)
        else Condition.ofNode (resolve budget.deeper.deeper) (decide budget.deeper) holds node) :=
  @Compositional.decideLevel Unit _ hQ (fun _ => holds) budget (fun _ => resolve) (fun _ => decide)
    hr hd hh node

/-- One level of resolving in a session has the property if the levels below have. -/
theorem resolve_succ
    (hr : budget.spent = false → ∀ node, Q Node (Resolution.resolve fuel budget.deeper node))
    (hh : budget.spent = false → ∀ name, Q Bool (Condition.ofName (Resolution.decide fuel) name))
    (node : Node) : Q Node (Resolution.resolve (fuel + 1) budget node) :=
  hQ.resolveLevel hr hh node

theorem decide_succ
    (hr : budget.spent = false →
      ∀ node, Q Node (Resolution.resolve fuel budget.deeper.deeper node))
    (hd : budget.spent = false → ∀ node, Q Bool (Resolution.decide fuel budget.deeper node))
    (hh : budget.spent = false → ∀ name, Q Bool (Condition.ofName (Resolution.decide fuel) name))
    (node : Node) : Q Bool (Resolution.decide (fuel + 1) budget node) :=
  hQ.decideLevel hr hd hh node

end CompositionalOne

/-! ### Pairs of computations -/

/-- A compositional relation of computations. -/
abbrev CompositionalTwo (Q : (α : Type) → Evaluation α → Evaluation α → Prop) : Prop :=
  Compositional fun α (x : Bool → Evaluation α) => Q α (x false) (x true)

namespace CompositionalTwo

variable {Q : (α : Type) → Evaluation α → Evaluation α → Prop} (hQ : CompositionalTwo Q)
  {budget : Budget} {resolve resolve' : Budget → Node → Evaluation Node}
  {decide decide' : Budget → Node → Evaluation Bool} {holds holds' : String → Evaluation Bool}

include hQ

theorem resolveLevel
    (hr : budget.spent = false →
      ∀ node, Q Node (resolve budget.deeper node) (resolve' budget.deeper node))
    (hh : ∀ name, Q Bool (holds name) (holds' name)) (node : Node) :
    Q Node
      (SamTemplate.walkStep
        (fun budget node => Intrinsic.expand (resolve budget.deeper) holds node)
        (fun budget _ => Evaluation.note (.depthExceeded budget.limit)) resolve budget node)
      (SamTemplate.walkStep
        (fun budget node => Intrinsic.expand (resolve' budget.deeper) holds' node)
        (fun budget _ => Evaluation.note (.depthExceeded budget.limit)) resolve' budget node) :=
  @Compositional.resolveLevel Bool _ hQ (fun i => bif i then holds' else holds) budget
    (fun i => bif i then resolve' else resolve) hr (fun _ => hh) node

theorem decideLevel
    (hr : budget.spent = false →
      ∀ node, Q Node (resolve budget.deeper.deeper node) (resolve' budget.deeper.deeper node))
    (hd : budget.spent = false →
      ∀ node, Q Bool (decide budget.deeper node) (decide' budget.deeper node))
    (hh : ∀ name, Q Bool (holds name) (holds' name)) (node : Node) :
    Q Bool
      (if budget.spent then Evaluation.deny (.conditionDepth budget.limit)
        else Condition.ofNode (resolve budget.deeper.deeper) (decide budget.deeper) holds node)
      (if budget.spent then Evaluation.deny (.conditionDepth budget.limit)
        else Condition.ofNode (resolve' budget.deeper.deeper) (decide' budget.deeper) holds'
          node) :=
  @Compositional.decideLevel Bool _ hQ (fun i => bif i then holds' else holds) budget
    (fun i => bif i then resolve' else resolve) (fun i => bif i then decide' else decide)
    hr hd (fun _ => hh) node

end CompositionalTwo

end SamTemplate
