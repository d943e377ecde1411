import Mathlib.Data.List.Forall2
import SamTemplate.Proofs.Growth

/-!
# Quiet runs

A run is quiet if there are no notices at its end, so that it neither noted
anything nor began in a session with notices. `Evaluation.Ensures` is what holds
of the results of the quiet runs of a computation, given and keeping an
invariant of the session: a notice makes any claim true, and one computation
after another ensures what follows from what the first one ensures.

* `Ensures.walkStep`: what a quiet level of a walk does (`Walked`).
-/

namespace SamTemplate

/-- Something noted is there. -/
theorem Session.warnings_note_ne_empty (s : Session) (notice : Notice) :
    (s.note notice).warnings ≠ .empty := by
  intro h
  have hmem := (Warnings.mem_add s.warnings notice.message notice.message).2 (.inr rfl)
  change s.warnings.add notice.message = .empty at h
  rw [h] at hmem
  exact absurd hmem List.not_mem_nil

namespace Evaluation

variable {α β : Type} {I : Session → Prop}

/-- The quiet runs of a computation from sessions with the invariant `I` keep it
    and have results with `Q`; the computation lets its session grow. -/
def Ensures (I : Session → Prop) (x : Evaluation α) (Q : α → Prop) : Prop :=
  Grows x ∧ ∀ s a t, I s → x s = some (a, t) → t.warnings = .empty → I t ∧ Q a

namespace Ensures

theorem imp {x : Evaluation α} {Q R : α → Prop} (hx : Ensures I x Q) (h : ∀ a, Q a → R a) :
    Ensures I x R :=
  ⟨hx.1, fun s a t hs ha ht => (hx.2 s a t hs ha ht).imp_right (h a)⟩

theorem pure {a : α} {Q : α → Prop} (h : Q a) : Ensures I (pure a : Evaluation α) Q := by
  refine ⟨.pure a, fun s b t hs hb _ => ?_⟩
  obtain ⟨rfl, rfl⟩ := pure_eq_some_iff.1 hb
  exact ⟨hs, h⟩

/-- What the first computation ensures may be used for the claim about the
    second, but not for its growth. -/
theorem bind {x : Evaluation α} {f : α → Evaluation β} {R : α → Prop} {Q : β → Prop}
    (hx : Ensures I x R) (hf : ∀ a, Ensures I (f a) fun b => R a → Q b) :
    Ensures I (x >>= f) Q := by
  refine ⟨.bind hx.1 fun a => (hf a).1, fun s b t hs hb ht => ?_⟩
  obtain ⟨a, u, ha, hb⟩ := bind_eq_some_iff.1 hb
  -- The first run is quiet as well, since notices are never lost.
  obtain ⟨hu, hR⟩ := hx.2 s a u hs ha (((hf a).1 u b t hb).warnings_eq_empty ht)
  obtain ⟨hI, hQ⟩ := (hf a).2 u b t hu hb ht
  exact ⟨hI, hQ hR⟩

theorem read {f : Parameters → Evaluation α} {parameters : Parameters} {Q : α → Prop}
    (hI : ∀ s, I s → s.parameters = parameters) (hg : ∀ p, Grows (f p))
    (hf : Ensures I (f parameters) Q) : Ensures I (do f (← get).parameters) Q := by
  refine ⟨.read hg, fun s a t hs ha ht => ?_⟩
  rw [get_bind_apply, hI s hs] at ha
  exact hf.2 s a t hs ha ht

/-- No run that notes something is quiet. -/
theorem note {notice : Notice} {Q : Unit → Prop} : Ensures I (note notice) Q := by
  refine ⟨.note notice, fun s a t _ ha ht => ?_⟩
  cases ha
  exact absurd ht (s.warnings_note_ne_empty notice)

theorem decline {notice : Notice} {Q : Option α → Prop} : Ensures I (decline notice) Q :=
  note.bind (R := fun _ => False) fun _ => pure fun h => h.elim

theorem deny {notice : Notice} {Q : Bool → Prop} : Ensures I (deny notice) Q :=
  note.bind (R := fun _ => False) fun _ => pure fun h => h.elim

theorem mapM {f : α → Evaluation β} {R : α → β → Prop} (hf : ∀ a, Ensures I (f a) (R a))
    (l : List α) : Ensures I (l.mapM f) (List.Forall₂ R l) := by
  induction l with
  | nil => simpa only [List.mapM_nil] using pure .nil
  | cons a l ih =>
    simp only [List.mapM_cons]
    exact (hf a).bind fun b => ih.bind fun bs => pure fun hbs hb => .cons hb hbs

end Ensures

end Evaluation

/-- What holds of all that a related list can have holds of its elements. -/
theorem forall_mem_of_forall₂ {α β : Type} {R : α → β → Prop} {p : β → Prop} {l : List α}
    {l' : List β} (h : List.Forall₂ R l l') (hp : ∀ a b, R a b → p b) : ∀ b ∈ l', p b := by
  induction h with
  | nil => exact fun _ hb => absurd hb List.not_mem_nil
  | cons hab _ ih => exact List.forall_mem_cons.2 ⟨hp _ _ hab, ih⟩

/-- What a quiet level of a walk makes of a node, where `E` holds of what the
    node expands to and `B` relates nodes to what the levels below make of them. -/
inductive Walked (E : Option Node → Prop) (B : Node → Node → Prop) : Node → Node → Prop
  /-- The node is expanded, and walked in its new form. -/
  | expanded {node expanded result : Node} : E (some expanded) → B expanded result →
      Walked E B node result
  /-- The items of a sequence are walked. -/
  | seq {items results : List Node} : E none → List.Forall₂ B items results →
      Walked E B (.seq items) (.seq results)
  /-- The values of a mapping are walked. -/
  | map {entries results : List (String × Node)} : E none →
      List.Forall₂ (fun entry result => result.1 = entry.1 ∧ B entry.2 result.2) entries results →
      Walked E B (.map entries) (.map results)
  /-- A node without children is left. -/
  | leaf {node : Node} : E none → node.entries? = none → node.seq? = none → Walked E B node node

namespace Evaluation.Ensures

variable {I : Session → Prop}

/-- A quiet level of a walk is within the budget. -/
theorem walkStep {expand : Budget → Node → Evaluation (Option Node)}
    {below : Budget → Node → Evaluation Node} {budget : Budget} {node : Node}
    {E : Option Node → Prop} {B : Node → Node → Prop} {notice : Budget → Notice}
    (he : Ensures I (expand budget node) E)
    (hb : ∀ node, Ensures I (below budget.deeper node) (B node)) :
    Ensures I (walkStep expand (fun budget _ => Evaluation.note (notice budget)) below budget node)
      fun result => budget.spent = false ∧ Walked E B node result := by
  unfold SamTemplate.walkStep
  cases hs : budget.spent with
  | true => exact note.bind (R := fun _ => False) fun _ => pure fun h => h.elim
  | false =>
    refine he.bind fun expanded => ?_
    cases expanded with
    | some expanded => exact (hb expanded).imp fun result hr he => ⟨rfl, .expanded he hr⟩
    | none =>
      cases node with
      | seq items =>
        exact (mapM hb items).bind fun results => pure fun hr he => ⟨rfl, .seq he hr⟩
      | map entries =>
        have hentry : ∀ entry : String × Node,
            Ensures I (do return (entry.1, ← below budget.deeper entry.2))
              fun result => result.1 = entry.1 ∧ B entry.2 result.2 :=
          fun entry => (hb entry.2).bind fun value => pure fun hv => ⟨rfl, hv⟩
        exact (mapM hentry entries).bind fun results => pure fun hr he => ⟨rfl, .map he hr⟩
      | _ => exact pure fun he => ⟨rfl, .leaf he rfl rfl⟩

end Evaluation.Ensures

end SamTemplate
