import SamTemplate.Proofs.Growth
import SamTemplate.Proofs.Normal

/-!
# Malformed calls

A function that makes nothing of its operand, and a condition that cannot be decided on
its operand, tell why in a message that begins with the name of what was called
(`Warnings.Blames`). So a call is either evaluated or reported.

* `Intrinsic.apply_explains`: no function declines its operand in silence;
* `Condition.ofForm_of_not_fits`: no form of condition passes over an operand that is
  not of its shape;
* `Session.expandAt_call_explained`, `Session.decideAt_call_explained`: the same of what
  a session is asked.
-/

namespace SamTemplate

/-- Some message is about what is called by this name. -/
def Warnings.Blames (warnings : Warnings) (name : String) : Prop :=
  ∃ cause, name ++ ": " ++ cause ∈ warnings.messages

/-- What is put behind a text comes after what the text begins with. -/
theorem append_of_eq_append {text head cause : String} (h : text = head ++ cause) (rest : String) :
    text ++ rest = head ++ (cause ++ rest) := by
  rw [h, String.append_assoc]

theorem Session.blames_note {name cause : String} {notice : Notice}
    (h : notice.message = name ++ ": " ++ cause) (s : Session) :
    (s.note notice).warnings.Blames name :=
  ⟨cause, (Warnings.mem_add _ _ _).2 (.inr h.symm)⟩

namespace Evaluation

variable {α β : Type} {name : String}

/-- A computation that ends without a result has told why, in a message about what is
    called by this name. -/
def Explains (name : String) (x : Evaluation (Option α)) : Prop :=
  ∀ s t, x s = some (none, t) → t.warnings.Blames name

namespace Explains

theorem some (a : α) : Explains name (pure (some a)) := by
  intro s t h
  exact nomatch (pure_eq_some_iff.1 h).1

theorem decline {notice : Notice} {cause : String} (h : notice.message = name ++ ": " ++ cause) :
    Explains (α := α) name (Evaluation.decline notice) := by
  intro s t ht
  cases ht
  exact s.blames_note h

/-- What comes first may have any result. -/
theorem bind {x : Evaluation β} {f : β → Evaluation (Option α)} (hf : ∀ b, Explains name (f b)) :
    Explains name (x >>= f) := by
  intro s t h
  obtain ⟨b, u, -, h⟩ := bind_eq_some_iff.1 h
  exact hf b u t h

end Explains

end Evaluation

open Evaluation

/-! ### Functions -/

namespace Intrinsic

variable (resolve : Node → Evaluation Node) (holds : String → Evaluation Bool)

theorem applyRef_explains (operand : Node) : Explains ref.name (applyRef resolve operand) := by
  have hmessage : "Ref: expected a name, got " = ref.name ++ ": " ++ "expected a name, got " := by
    decide
  refine .bind fun target => ?_
  cases target with
  | str name => exact .bind fun s => .some _
  | _ => exact .decline (append_of_eq_append hmessage _)

theorem applyChoose_explains (operand : Node) :
    Explains choose.name (applyChoose holds operand) := by
  have hshape : Notice.ifShape.message
      = choose.name ++ ": " ++ "arguments must be [condition, true_val, false_val]" := by decide
  unfold applyChoose
  split
  · exact .bind fun _ => .some _
  · exact .decline hshape

theorem applySub_explains (operand : Node) : Explains sub.name (applySub resolve operand) := by
  have hempty : Notice.subEmptyTemplate.message
      = sub.name ++ ": " ++ "template string is empty" := by decide
  have hkind : Notice.subTemplateKind.message
      = sub.name ++ ": " ++ "template must be a string" := by decide
  have hshape : Notice.subShape.message
      = sub.name ++ ": " ++ "arguments must be [template, \x7bvariables\x7d]" := by decide
  have hoperand : "Fn::Sub: unsupported operand "
      = sub.name ++ ": " ++ "unsupported operand " := by decide
  unfold applySub
  split
  · exact .bind fun _ => .some _
  · split
    · exact .decline hempty
    · exact .bind fun _ => .bind fun _ => .some _
  · exact .decline hkind
  · exact .decline hshape
  · exact .decline (append_of_eq_append hoperand _)

theorem applyJoin_explains (operand : Node) : Explains join.name (applyJoin resolve operand) := by
  have hshape : Notice.joinShape.message
      = join.name ++ ": " ++ "arguments must be [sep, [elements]]" := by decide
  unfold applyJoin
  split
  · refine .bind fun _ => .bind fun elements => ?_
    cases elements with
    | seq elements => exact .bind fun _ => .some _
    | _ => exact .decline hshape
  · exact .decline hshape

theorem applyGetAtt_explains (operand : Node) :
    Explains getAtt.name (applyGetAtt resolve operand) := by
  have htext : "Fn::GetAtt: malformed string "
      = getAtt.name ++ ": " ++ "malformed string " := by decide
  have hlength : Notice.getAttLength.message
      = getAtt.name ++ ": " ++ "array must have 2 elements" := by decide
  have hoperand : "Fn::GetAtt: unsupported operand "
      = getAtt.name ++ ": " ++ "unsupported operand " := by decide
  unfold applyGetAtt
  split
  · split
    · split
      · exact .some _
      · exact .decline (append_of_eq_append htext _)
    · exact .decline (append_of_eq_append htext _)
  · exact .bind fun _ => .bind fun _ => .some _
  · exact .decline hlength
  · exact .decline (append_of_eq_append hoperand _)

theorem applySplit_explains (operand : Node) :
    Explains split.name (applySplit resolve operand) := by
  have hempty : Notice.splitDelimiter.message
      = split.name ++ ": " ++ "delimiter must not be empty" := by decide
  have hshape : Notice.splitShape.message
      = split.name ++ ": " ++ "arguments must be [delimiter, source]" := by decide
  unfold applySplit
  split
  · refine .bind fun delimiter => ?_
    split
    · exact .decline hempty
    · exact .bind fun _ => .some _
  · exact .decline hshape

theorem applySelect_explains (operand : Node) :
    Explains select.name (applySelect resolve operand) := by
  have hshape : Notice.selectShape.message
      = select.name ++ ": " ++ "arguments must be [index, [elements]]" := by decide
  have hindex : "Fn::Select: index " = select.name ++ ": " ++ "index " := by decide
  have hoperand : "Fn::Select: expected a list, got "
      = select.name ++ ": " ++ "expected a list, got " := by decide
  -- The index and the length come after that, with words between them.
  have hrange (index : String) (length : Nat) :
      ∃ cause, (Notice.selectRange index length).message = select.name ++ ": " ++ cause :=
    ⟨_, append_of_eq_append (append_of_eq_append (append_of_eq_append
      (append_of_eq_append hindex _) _) _) _⟩
  unfold applySelect
  split
  · refine .bind fun index => .bind fun list => ?_
    cases list with
    | seq elements =>
      dsimp only
      cases elementAt? elements index with
      | none =>
        obtain ⟨cause, hcause⟩ := hrange index.text elements.length
        exact .decline hcause
      | some element => exact .some _
    | _ => exact .decline (append_of_eq_append hoperand _)
  · exact .decline hshape

/-- No function declines its operand in silence. -/
theorem apply_explains (function : Intrinsic) (operand : Node) :
    Explains function.name (apply resolve holds function operand) := by
  cases function with
  | ref => exact applyRef_explains resolve operand
  | choose => exact applyChoose_explains holds operand
  | sub => exact applySub_explains resolve operand
  | join => exact applyJoin_explains resolve operand
  | getAtt => exact applyGetAtt_explains resolve operand
  | split => exact applySplit_explains resolve operand
  | select => exact applySelect_explains resolve operand
  | importValue => exact .bind fun _ => .some _

/-- A call is expanded, or it is reported. -/
theorem expand_call_explains (function : Intrinsic) (operand : Node) :
    Explains function.name (expand resolve holds (.call function.name operand)) := by
  rw [expand_of_intrinsic? (Node.intrinsic?_eq_some_iff.2 rfl)]
  exact apply_explains resolve holds function operand

end Intrinsic

/-! ### Conditions -/

namespace Condition

/-- The operands that a form of condition is decided on. -/
inductive Form.Fits : Form → Node → Prop
  | equals (left right : Node) : Fits .equals (.seq [left, right])
  | not (operand : Node) : Fits .not (.seq [operand])
  | and (operands : List Node) : Fits .and (.seq operands)
  | or (operands : List Node) : Fits .or (.seq operands)
  | named (operand : Node) : Fits .named operand

theorem Form.ofName?_name (form : Form) : ofName? form.name = some form := by
  cases form <;> rfl

variable (resolve : Node → Evaluation Node) (decide : Node → Evaluation Bool)
  (holds : String → Evaluation Bool)

/-- On any other operand a form counts as false, and that is reported. -/
theorem ofForm_of_not_fits {form : Form} {operand : Node} (h : ¬ form.Fits operand) (s : Session) :
    ∃ t, ofForm resolve decide holds form operand s = some (false, t) ∧
      t.warnings.Blames form.name := by
  have hequals : Notice.equalsShape.message
      = Form.equals.name ++ ": " ++ "arguments must be [value1, value2]" := by decide
  have hnot : Notice.notShape.message
      = Form.not.name ++ ": " ++ "arguments must be [condition]" := by decide
  have hand : Notice.andShape.message
      = Form.and.name ++ ": " ++ "arguments must be a list of conditions" := by decide
  have hor : Notice.orShape.message
      = Form.or.name ++ ": " ++ "arguments must be a list of conditions" := by decide
  have hdeny {notice : Notice} {cause : String} (hm : notice.message = form.name ++ ": " ++ cause) :
      ∃ t, Evaluation.deny notice s = some (false, t) ∧ t.warnings.Blames form.name :=
    ⟨_, rfl, s.blames_note hm⟩
  unfold ofForm
  split
  · exact absurd (.equals _ _) h
  · exact hdeny hequals
  · exact absurd (.not _) h
  · exact hdeny hnot
  · exact absurd (.and _) h
  · exact hdeny hand
  · exact absurd (.or _) h
  · exact hdeny hor
  · exact absurd (.named _) h

theorem ofNode_call (form : Form) (operand : Node) :
    ofNode resolve decide holds (.call form.name operand)
      = ofForm resolve decide holds form operand := by
  simp [ofNode, Node.call, Node.call?, Form.ofName?_name]

end Condition

/-! ### Sessions -/

namespace Session

/-- A session expands a call, or reports it. -/
theorem expandAt_call_explained (s : Session) (budget : Budget) (function : Intrinsic)
    (operand : Node) (h : (s.expandAt budget (.call function.name operand)).1 = none) :
    (s.expandAt budget (.call function.name operand)).2.warnings.Blames function.name := by
  have hrun := s.expandAt_spec budget (.call function.name operand)
  generalize s.expandAt budget (.call function.name operand) = result at h hrun ⊢
  obtain ⟨expanded, t⟩ := result
  subst h
  exact Intrinsic.expand_call_explains _ _ function operand s t hrun

/-- A session decides a condition on an operand of its shape, or reports it. -/
theorem decideAt_call_explained (s : Session) {budget : Budget} (hs : budget.spent = false)
    {form : Condition.Form} {operand : Node} (h : ¬ form.Fits operand) :
    (s.decideAt budget (.call form.name operand)).1 = false ∧
      (s.decideAt budget (.call form.name operand)).2.warnings.Blames form.name := by
  have hrun := s.decideAt_spec budget (.call form.name operand)
  generalize s.decideAt budget (.call form.name operand) = result at hrun ⊢
  obtain ⟨fuel, hfuel⟩ := s.exists_nesting_eq budget
  rw [hfuel, Resolution.decide, Condition.decideStep, if_neg (by simp [hs]),
    Condition.ofNode_call] at hrun
  obtain ⟨t, ht, hblames⟩ := Condition.ofForm_of_not_fits _ _ _ h s
  rw [ht] at hrun
  obtain rfl := Option.some.inj hrun
  exact ⟨rfl, hblames⟩

end Session

end SamTemplate
