import SamTemplate.Proofs.MalformedCalls
import SamTemplate.Proofs.Spellings

/-!
# Calls in short on any operand

A tag of a function is short for a call on the kinds of operand that it is listed for
(`Node.shortTags`), and there the call comes in long and is then evaluated or reported
(`Node.AnsweredFor`). On an operand of another kind the tag has no effect at all: the
operand stands in its place, and no notice says so.

* `Node.tagged_eq_ite`: what stands in the place of an operand under a tag;
* `Node.ofYaml_tagged_supported`: the two cases for the tags of functions;
* `Node.ofYaml_tagged_importValue`: a call with a meaning in long that is lost in short.
-/

namespace SamTemplate

namespace Node

variable {tag : String}

/-- Under a tag that is listed for operands of its kind stands a call, under any other one
    the operand alone. -/
theorem tagged_eq_ite (tag : String) (node : Node) :
    tagged tag node
      = if bareTag tag ∈ node.shortTags then call (longName (bareTag tag)) node else node := by
  rw [tagged_eq]
  split
  · rw [function?_of_mem_shortTags ‹_›]
    rfl
  · rw [function?_of_not_mem_shortTags ‹_›]
    rfl

/-- The call of a name on an operand is evaluated by every session, or reported under its
    name. -/
inductive AnsweredFor : String → Node → Prop
  /-- A function expands the call, or it is reported. -/
  | expanded {function : Intrinsic} {operand : Node} :
      (∀ (s : Session) budget, (s.expandAt budget (call function.name operand)).1 = none →
        (s.expandAt budget (call function.name operand)).2.warnings.Blames function.name) →
      AnsweredFor function.name operand
  /-- A condition is decided on an operand of its shape, or counts as false and is reported. -/
  | decided {form : Condition.Form} {operand : Node} :
      (∀ (s : Session) (budget : Budget), budget.spent = false → ¬ form.Fits operand →
        (s.decideAt budget (call form.name operand)).1 = false ∧
          (s.decideAt budget (call form.name operand)).2.warnings.Blames form.name) →
      AnsweredFor form.name operand

/-- Every tag of a function is short for an intrinsic function or a form of condition. -/
theorem answeredFor_longName (h : tag ∈ supportedTags) (operand : Node) :
    AnsweredFor (longName tag) operand := by
  have hnamed : ∀ tag ∈ supportedTags, longName tag ∈ Intrinsic.all.map Intrinsic.name ∨
      longName tag ∈ Condition.Form.all.map Condition.Form.name := by decide
  rcases hnamed tag h with hmem | hmem
  · obtain ⟨function, -, hname⟩ := List.mem_map.1 hmem
    exact hname ▸ .expanded fun s budget => s.expandAt_call_explained budget function operand
  · obtain ⟨form, -, hname⟩ := List.mem_map.1 hmem
    exact hname ▸ .decided fun s budget hs hfit => s.decideAt_call_explained hs hfit

/-- A value under the tag of a function describes the call in long of what the value
    describes, which is then evaluated or reported, if the tag is listed for operands of
    that kind. If it is not, the tag is lost. -/
theorem ofYaml_tagged_supported (h : bareTag tag ∈ supportedTags) (value : Yaml.Value) :
    (bareTag tag ∈ (ofYaml value).shortTags →
      ofYaml (.tagged tag value) = call (longName (bareTag tag)) (ofYaml value) ∧
        AnsweredFor (longName (bareTag tag)) (ofYaml value)) ∧
    (bareTag tag ∉ (ofYaml value).shortTags → ofYaml (.tagged tag value) = ofYaml value) := by
  rw [ofYaml, tagged_eq_ite]
  refine ⟨fun hlisted => ?_, fun hnot => if_neg hnot⟩
  rw [if_pos hlisted]
  exact ⟨rfl, answeredFor_longName h (ofYaml value)⟩

/-- One tag, on a scalar that it is listed for and on a call that it is not. -/
theorem ofYaml_tagged_importValue_scalar_and_call :
    ofYaml (.tagged "!ImportValue" (.str "x")) = call "Fn::ImportValue" (.str "x") ∧
      ofYaml (.tagged "!ImportValue" (.map [(.str "Fn::Sub", .str "x")]))
        = call "Fn::Sub" (.str "x") :=
  have hsupported : bareTag "!ImportValue" ∈ supportedTags := by decide
  ⟨((ofYaml_tagged_supported hsupported (.str "x")).1 (by decide)).1,
    (ofYaml_tagged_supported hsupported (.map [(.str "Fn::Sub", .str "x")])).2 (by decide)⟩

/-- The tag for a value of another stack, on a call. In long the name of the value is
    evaluated and the stand-in for the value is made of it. In short the tag is lost: the
    name itself takes the place of the value, and nothing is noted. -/
theorem ofYaml_tagged_importValue :
    let value := Yaml.Value.map [(.str "Fn::Sub", .str "x")]
    let short := ofYaml (.tagged "!ImportValue" value)
    let long := call "Fn::ImportValue" (ofYaml value)
    short ≠ long ∧
      ((Session.start .empty []).resolve short).1 = .str "x" ∧
      ((Session.start .empty []).resolve short).2.warnings = .empty ∧
      ((Session.start .empty []).resolve long).1 = .str "imported-x" := by
  refine ⟨fun heq => ?_, rfl, rfl, rfl⟩
  have hname : "Fn::Sub" = "Fn::ImportValue" := by
    injection heq with hentries
    exact (Prod.mk.inj (List.cons.inj hentries).1).1
  exact absurd hname (by decide)

end Node

end SamTemplate
