import SamTemplate.Proofs.Meaning

/-!
# Refinement of the meaning

A quiet run gives what a template means: a walk within a budget, which remembers
what it decided, keeps track of what it is deciding and resolves the elements of
a join twice, agrees with the relations `Means` and `Holds`.

The invariant is that all conditions decided so far have the value they were
decided to have (`Session.Faithful`). Under it each function builds what it
should (`Intrinsic.apply_ensures`), and so a level of resolving or deciding does
if the levels below do (`Resolution.ensures`).

* `Session.means_iff_of_quiet`: without notices the result of resolving is the one
  tree that the node means;
* `Session.holds_iff_of_quiet`, `Session.nameHolds_iff_of_quiet`: and the answer of
  deciding is the one value that the condition has.
-/

namespace SamTemplate

open Evaluation

/-- All conditions decided in a session of a template have the values they have
    in it. -/
abbrev Session.Faithful (parameters : Parameters) (conditions : Entries Node)
    (session : Session) : Prop :=
  session.Recalls parameters conditions (NameHolds parameters conditions)

section

variable {parameters : Parameters} {conditions : Entries Node} {I : Session → Prop}
  {resolve : Node → Evaluation Node} {holds : String → Evaluation Bool}

/-! ### Intrinsic functions -/

namespace Intrinsic

/-- A function gives a node, and builds it from its operand. -/
def Built (parameters : Parameters) (conditions : Entries Node) (function : Intrinsic)
    (operand : Node) (result : Option Node) : Prop :=
  ∃ built, result = some built ∧ Builds parameters conditions function operand built

/-- What expanding a node can give. -/
inductive Expands (parameters : Parameters) (conditions : Entries Node) :
    Node → Option Node → Prop
  /-- A text is interpolated, if that changes it. -/
  | text {text : String} : interpolate parameters text ≠ text →
      Expands parameters conditions (.str text) (some (.str (interpolate parameters text)))
  | textKept {text : String} : interpolate parameters text = text →
      Expands parameters conditions (.str text) none
  /-- A call becomes what its function builds. -/
  | call {node operand built : Node} {function : Intrinsic} :
      node.intrinsic? = some (function, operand) →
      Builds parameters conditions function operand built →
      Expands parameters conditions node (some built)
  | kept {node : Node} : node.intrinsic? = none → (∀ text, node ≠ .str text) →
      Expands parameters conditions node none

variable (hI : ∀ s, I s → s.parameters = parameters)
  (hr : ∀ node, Ensures I (resolve node) (Means parameters conditions node))
  (hh : ∀ name, Ensures I (holds name) (NameHolds parameters conditions name))

section Operands

include hr

theorem resolveText_ensures (operand : Node) :
    Ensures I (resolveText resolve operand) fun text =>
      ∃ value, Means parameters conditions operand value ∧ value.text = text :=
  (hr operand).bind fun value => .pure fun hv => ⟨value, hv, rfl⟩

theorem bindVariables_ensures (scope : Parameters) (locals : List (String × Node)) :
    Ensures I (bindVariables resolve scope locals) (Binds parameters conditions scope locals) := by
  induction locals generalizing scope with
  | nil => exact .pure (.nil scope)
  | cons pair locals ih =>
    obtain ⟨name, node⟩ := pair
    refine (resolveText_ensures hr node).bind fun text => (ih _).imp fun result hb ht => ?_
    obtain ⟨value, hv, rfl⟩ := ht
    exact .cons hv hb

/-- Resolving the items of an evaluated list once more changes nothing. -/
theorem mapM_resolveText_ensures (items : List Node) :
    Ensures I (items.mapM (resolveText resolve)) fun texts =>
      (∀ item ∈ items, item.Normal parameters) → texts = items.map Node.text := by
  -- An item that is normal means itself only, so its text is the one that is joined.
  refine (Ensures.mapM (resolveText_ensures hr) items).imp fun texts h => ?_
  induction h with
  | nil => exact fun _ => rfl
  | cons ht _ ih =>
    intro hn
    obtain ⟨value, hv, rfl⟩ := ht
    rw [hv.eq_of_normal (hn _ List.mem_cons_self),
      ih fun item hmem => hn item (List.mem_cons_of_mem _ hmem)]
    rfl

theorem applyJoin_ensures (operand : Node) :
    Ensures I (applyJoin resolve operand) (Built parameters conditions .join operand) := by
  unfold applyJoin
  split
  · refine (resolveText_ensures hr _).bind fun separator => (hr _).bind fun elements => ?_
    cases elements with
    | seq items =>
      refine (mapM_resolveText_ensures hr items).bind fun parts => .pure fun hp he hs => ?_
      obtain ⟨value, hv, rfl⟩ := hs
      -- The list is what the elements mean, and therefore normal.
      cases he.normal with
      | seq hn => exact ⟨_, rfl, hp hn ▸ .join hv he⟩
    | _ => exact .decline
  · exact .decline

theorem applyGetAtt_ensures (operand : Node) :
    Ensures I (applyGetAtt resolve operand) (Built parameters conditions .getAtt operand) := by
  unfold applyGetAtt
  split
  · split
    · rename_i hp
      split
      · rename_i hne
        exact .pure ⟨_, rfl, .getAttText hp hne.1 hne.2⟩
      · exact .decline
    · exact .decline
  · refine (resolveText_ensures hr _).bind fun resource =>
      (resolveText_ensures hr _).bind fun name => .pure ?_
    rintro ⟨nameValue, hn, rfl⟩ ⟨resourceValue, hv, rfl⟩
    exact ⟨_, rfl, .getAttPair hv hn⟩
  all_goals exact .decline

theorem applySplit_ensures (operand : Node) :
    Ensures I (applySplit resolve operand) (Built parameters conditions .split operand) := by
  unfold applySplit
  split
  · refine (resolveText_ensures hr _).bind fun delimiter => ?_
    by_cases hd : delimiter = ""
    · simpa only [if_pos hd] using .decline
    · simp only [if_neg hd]
      refine (resolveText_ensures hr _).bind fun source => .pure ?_
      rintro ⟨sourceValue, hs, rfl⟩ ⟨delimiterValue, hv, rfl⟩
      exact ⟨_, rfl, .split hv hd hs⟩
  · exact .decline

theorem applySelect_ensures (operand : Node) :
    Ensures I (applySelect resolve operand) (Built parameters conditions .select operand) := by
  unfold applySelect
  split
  · refine (hr _).bind fun index => (hr _).bind fun list => ?_
    cases list with
    | seq elements =>
      dsimp only
      cases he : elementAt? elements index with
      | none => exact .decline
      | some element => exact .pure fun hl hi => ⟨_, rfl, .select hi hl he⟩
    | _ => exact .decline
  · exact .decline

theorem applyImportValue_ensures (operand : Node) :
    Ensures I (applyImportValue resolve operand)
      (Built parameters conditions .importValue operand) := by
  refine (resolveText_ensures hr operand).bind fun text => .pure ?_
  rintro ⟨value, hv, rfl⟩
  exact ⟨_, rfl, .importValue hv⟩

end Operands

include hI hr in
theorem applyRef_ensures (operand : Node) :
    Ensures I (applyRef resolve operand) (Built parameters conditions .ref operand) := by
  refine (hr operand).bind fun target => ?_
  cases target with
  | str name =>
    exact Ensures.read
      (f := fun p => pure (some (Node.str ((p.valueOf? name.toList).getD name)))) hI
      (fun _ => .pure _) (.pure fun hm => ⟨_, rfl, .ref hm⟩)
  | _ => exact .decline

include hI hr in
theorem applySub_ensures (operand : Node) :
    Ensures I (applySub resolve operand) (Built parameters conditions .sub operand) := by
  unfold applySub
  split
  · rename_i template
    exact Ensures.read (f := fun p => pure (some (Node.str (interpolate p template)))) hI
      (fun _ => .pure _) (.pure ⟨_, rfl, .sub template⟩)
  · rename_i template locals
    split
    · exact .decline
    · rename_i ht
      -- Growth is needed for all parameters, though the invariant knows them.
      have hbind : ∀ p : Parameters, Ensures I (do
          let scope ← bindVariables resolve p locals
          return some (Node.str (interpolate scope template)))
          fun result => ∃ scope, Binds parameters conditions p locals scope ∧
            result = some (.str (interpolate scope template)) := fun p =>
        (bindVariables_ensures hr p locals).bind fun scope => .pure fun hs => ⟨scope, hs, rfl⟩
      refine (Ensures.read hI (fun p => (hbind p).1) (hbind parameters)).imp ?_
      rintro _ ⟨scope, hs, rfl⟩
      exact ⟨_, rfl, .subLocals ht hs⟩
  all_goals exact .decline

include hh in
theorem applyChoose_ensures (operand : Node) :
    Ensures I (applyChoose holds operand) (Built parameters conditions .choose operand) := by
  unfold applyChoose
  split
  · refine (hh _).bind fun value => .pure fun hv => ?_
    cases value with
    | true => exact ⟨_, rfl, .chooseTrue hv⟩
    | false => exact ⟨_, rfl, .chooseFalse hv⟩
  · exact .decline

section Calls

include hI hr hh

/-- A function builds what it should from its operand. -/
theorem apply_ensures (function : Intrinsic) (operand : Node) :
    Ensures I (apply resolve holds function operand)
      (Built parameters conditions function operand) := by
  cases function with
  | ref => exact applyRef_ensures hI hr operand
  | choose => exact applyChoose_ensures hh operand
  | sub => exact applySub_ensures hI hr operand
  | join => exact applyJoin_ensures hr operand
  | getAtt => exact applyGetAtt_ensures hr operand
  | split => exact applySplit_ensures hr operand
  | select => exact applySelect_ensures hr operand
  | importValue => exact applyImportValue_ensures hr operand

theorem expand_ensures (node : Node) :
    Ensures I (expand resolve holds node) (Expands parameters conditions node) := by
  by_cases hs : ∃ text, node = .str text
  · obtain ⟨text, rfl⟩ := hs
    refine Ensures.read (f := fun p => pure (if interpolate p text = text then none
      else some (Node.str (interpolate p text)))) hI (fun _ => .pure _) (.pure ?_)
    split
    · exact .textKept ‹_›
    · exact .text ‹_›
  · have hs' : ∀ text, node ≠ .str text := fun text heq => hs ⟨text, heq⟩
    cases hc : node.intrinsic? with
    | none =>
      rw [expand_of_intrinsic?_eq_none hc hs']
      exact .pure (.kept hc hs')
    | some call =>
      obtain ⟨function, operand⟩ := call
      rw [expand_of_intrinsic? hc]
      refine (apply_ensures hI hr hh function operand).imp ?_
      rintro _ ⟨built, rfl, hb⟩
      exact .call hc hb

end Calls

end Intrinsic

/-! ### Walks -/

/-- A level of a walk gives what the node means if the levels below do. -/
theorem means_of_walked {node result : Node}
    (h : Walked (Intrinsic.Expands parameters conditions node) (Means parameters conditions) node
      result) : Means parameters conditions node result := by
  cases h with
  | expanded he hv => cases he with
    | text hn => exact .interpolated hn hv
    | call hc hb => exact .call hc hb hv
  | seq _ hi => exact .seq (.of_forall₂ hi)
  | map he hv => cases he with
    | kept hm => exact .map hm (.of_forall₂ hv)
  | leaf he hm hq => cases node with
    | null => exact .null
    | bool value => exact .bool value
    | int value => exact .int value
    | float value => exact .float value
    | str text => cases he with
      | textKept hs => exact .str hs
      | kept _ hs => exact absurd rfl (hs text)
    | seq items => exact nomatch hq
    | map entries => exact nomatch hm

/-! ### Conditions -/

namespace Condition

variable {decide : Node → Evaluation Bool}
  (hr : ∀ node, Ensures I (resolve node) (Means parameters conditions node))
  (hd : ∀ node, Ensures I (decide node) (Holds parameters conditions node))
  (hh : ∀ name, Ensures I (holds name) (NameHolds parameters conditions name))

include hd in
theorem allHold_ensures (operands : List Node) :
    Ensures I (allHold decide operands) (AllHold parameters conditions operands) := by
  induction operands with
  | nil => exact .pure .nil
  | cons operand operands ih =>
    refine (hd operand).bind fun value => ?_
    cases value with
    | false => exact .pure fun hv => .stop hv
    | true => exact ih.imp fun value hr hv => .next hv hr

include hd in
theorem someHold_ensures (operands : List Node) :
    Ensures I (someHold decide operands) (SomeHold parameters conditions operands) := by
  induction operands with
  | nil => exact .pure .nil
  | cons operand operands ih =>
    refine (hd operand).bind fun value => ?_
    cases value with
    | false => exact ih.imp fun value hr hv => .next hv hr
    | true => exact .pure fun hv => .stop hv

include hr hd hh in
theorem ofForm_ensures (form : Form) (operand : Node) :
    Ensures I (ofForm resolve decide holds form operand)
      (FormHolds parameters conditions form operand) := by
  unfold ofForm
  split
  · exact (hr _).bind fun left => (hr _).bind fun right =>
      .pure fun hright hleft => .equals hleft hright
  · exact .deny
  · exact (hd _).bind fun value => .pure fun hv => .not hv
  · exact .deny
  · exact (allHold_ensures hd _).imp fun value hv => .and hv
  · exact .deny
  · exact (someHold_ensures hd _).imp fun value hv => .or hv
  · exact .deny
  · exact (hh _).imp fun value hv => .named hv

include hr in
theorem ofValue_ensures {node : Node}
    (ht : node.truth? = none) (hc : node.condition? = none) :
    Ensures I (ofValue resolve node) (Holds parameters conditions node) := by
  refine (hr node).bind fun result => ?_
  cases result with
  | bool value => exact .pure fun hm => .meant ht hc hm rfl
  | str text => exact .pure fun hm => .meant ht hc hm rfl
  | _ => exact .deny

include hr hd hh in
/-- An expression has the value it should have, if its operands do. -/
theorem ofNode_ensures (node : Node) :
    Ensures I (ofNode resolve decide holds node) (Holds parameters conditions node) := by
  unfold ofNode
  split
  · exact .pure (.literal rfl)
  · exact .pure (.literal rfl)
  · rename_i hb hs
    have ht : node.truth? = none := by
      cases node with
      | bool value => exact absurd rfl (hb value)
      | str text => exact absurd rfl (hs text)
      | _ => rfl
    split
    · rename_i hc
      exact (ofForm_ensures hr hd hh _ _).imp fun value hv => .form hc hv
    · rename_i hc
      exact ofValue_ensures hr ht hc

/-- A name is decided to have the value that its condition has. -/
theorem ofName_ensures {decide : Budget → Node → Evaluation Bool}
    (hd : ∀ node, Ensures (Session.Faithful parameters conditions) (decide {} node)
      (Holds parameters conditions node)) (name : String) :
    Ensures (Session.Faithful parameters conditions) (ofName decide name)
      (NameHolds parameters conditions name) := by
  refine ⟨ofName_grows (fun node => (hd node).1) name, fun s value t hs h ht => ?_⟩
  cases asked_of_ofName h with
  | decided hn => exact ⟨hs, hs.decided name value hn⟩
  | unknown => exact absurd ht (s.warnings_note_ne_empty _)
  | circular => exact absurd ht (s.warnings_note_ne_empty _)
  | decide hn hc hp hu =>
    -- Leaving the condition notes nothing, so deciding its expression was quiet.
    obtain ⟨hu, hv⟩ := (hd _).2 _ _ _ (hs.enter name) hu ht
    have hname : NameHolds parameters conditions name value := .intro (hs.conditions_eq ▸ hc) hv
    exact ⟨hu.leave hname, hname⟩

end Condition

end

/-! ### Resolving and deciding -/

/-- A quiet run gives what a node means, or the value that a condition has. -/
theorem Resolution.ensures (parameters : Parameters) (conditions : Entries Node) (fuel : Nat) :
    (∀ budget node, Ensures (Session.Faithful parameters conditions) (resolve fuel budget node)
      (Means parameters conditions node)) ∧
    ∀ budget node, Ensures (Session.Faithful parameters conditions) (decide fuel budget node)
      (Holds parameters conditions node) := by
  induction fuel with
  | zero =>
    exact ⟨fun budget node => ⟨(grows 0).1 budget node, fun _ _ _ _ h => (nomatch h)⟩,
      fun budget node => ⟨(grows 0).2 budget node, fun _ _ _ _ h => (nomatch h)⟩⟩
  | succ fuel ih =>
    have hname := Condition.ofName_ensures (ih.2 {})
    refine ⟨fun budget node => ?_, fun budget node => ?_⟩
    · have hexpand : Ensures (Session.Faithful parameters conditions) (expand fuel budget node)
          (Intrinsic.Expands parameters conditions node) :=
        Intrinsic.expand_ensures (fun _ hs => hs.parameters_eq) (ih.1 budget.deeper) hname node
      exact (Ensures.walkStep hexpand (ih.1 budget.deeper)).imp fun _ h => means_of_walked h.2
    · rw [decide, Condition.decideStep]
      split
      · exact .deny
      · exact Condition.ofNode_ensures (ih.1 _) (ih.2 _) hname node

namespace Session

variable (parameters : Parameters) (conditions : Entries Node) (budget : Budget)

/-- If resolving a node in a new session leaves no notices, the result is what the
    node means, and the node means nothing else. -/
theorem means_iff_of_quiet (node : Node)
    (h : ((start parameters conditions).resolveAt budget node).2.warnings = .empty)
    (result : Node) : Means parameters conditions node result ↔
      ((start parameters conditions).resolveAt budget node).1 = result := by
  obtain ⟨-, hm⟩ := ((Resolution.ensures parameters conditions _).1 budget node).2 _ _ _ .start
    (resolveAt_spec _ budget node) h
  exact ⟨fun hr => hm.unique hr, fun hr => hr ▸ hm⟩

/-- A call in a branch that a condition chooses, with a token in one operand. -/
theorem means_choice :
    Means (Bindings.empty.insert "Stage" "prod")
      [("IsProd", .call "Fn::Equals" (.seq [.call "Ref" (.str "Stage"), .str "prod"]))]
      (.call "Fn::If" (.seq [.str "IsProd",
        .call "Fn::Join" (.seq [.str "-", .seq [.str "api", .str "$\x7bStage\x7d"]]), .str "none"]))
      (.str "api-prod") :=
  (means_iff_of_quiet (Bindings.empty.insert "Stage" "prod")
    [("IsProd", .call "Fn::Equals" (.seq [.call "Ref" (.str "Stage"), .str "prod"]))] {}
    (.call "Fn::If" (.seq [.str "IsProd",
      .call "Fn::Join" (.seq [.str "-", .seq [.str "api", .str "$\x7bStage\x7d"]]), .str "none"]))
    (by decide) (.str "api-prod")).2 rfl

/-- If deciding an expression in a new session leaves no notices, the answer is
    the value that the expression has. -/
theorem holds_iff_of_quiet (node : Node)
    (h : ((start parameters conditions).decideAt budget node).2.warnings = .empty) (value : Bool) :
    Holds parameters conditions node value ↔
      ((start parameters conditions).decideAt budget node).1 = value := by
  obtain ⟨-, hm⟩ := ((Resolution.ensures parameters conditions _).2 budget node).2 _ _ _ .start
    (decideAt_spec _ budget node) h
  exact ⟨fun hr => hm.unique hr, fun hr => hr ▸ hm⟩

/-- If deciding a name in a new session leaves no notices, the answer is the
    value that its condition has. -/
theorem nameHolds_iff_of_quiet (name : String)
    (h : ((start parameters conditions).decideNamed name).2.warnings = .empty) (value : Bool) :
    NameHolds parameters conditions name value ↔
      ((start parameters conditions).decideNamed name).1 = value := by
  obtain ⟨-, hm⟩ := (Condition.ofName_ensures
    ((Resolution.ensures parameters conditions _).2 {}) name).2 _ _ _ .start
    (decideNamed_spec _ name) h
  exact ⟨fun hr => hm.unique hr, fun hr => hr ▸ hm⟩

end Session

end SamTemplate
