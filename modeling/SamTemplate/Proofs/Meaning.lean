import SamTemplate.Proofs.Normal

/-!
# Meaning of templates

What a node of a template means, and whether a condition holds, as inductive
relations: without budgets, without remembering what was decided, and with every
operand evaluated once. A text is interpolated until nothing changes, a call
builds a node from what its operands mean and means what that node means, and
any other container means the container of what its children mean.

Nothing malformed, unknown or circular means anything: for each there is no
rule, or no finite derivation.

* `Means.unique`, `Holds.unique`: a node means at most one tree, and a condition
  has at most one value;
* `Means.normal`, `Means.eq_of_normal`: what a node means is normal, and a normal
  tree means itself and nothing else.
-/

namespace SamTemplate

namespace Node

/-- The truth value that a node spells. -/
def truth? : Node → Option Bool
  | .bool value => some value
  | .str text => some (spellsTrue text)
  | _ => none

/-- The form of condition that a node is written in, and the operand. -/
def condition? (node : Node) : Option (Condition.Form × Node) :=
  node.call?.bind fun (name, operand) => (Condition.Form.ofName? name).map (·, operand)

end Node

section

variable (parameters : Parameters) (conditions : Entries Node)

mutual

/-- What a node means. -/
inductive Means : Node → Node → Prop
  | null : Means .null .null
  | bool (value : Bool) : Means (.bool value) (.bool value)
  | int (value : Int64) : Means (.int value) (.int value)
  | float (value : Binary64) : Means (.float value) (.float value)
  /-- A text that interpolation leaves as it is. -/
  | str {text : String} : interpolate parameters text = text → Means (.str text) (.str text)
  /-- A text is interpolated and evaluated again. -/
  | interpolated {text : String} {value : Node} : interpolate parameters text ≠ text →
      Means (.str (interpolate parameters text)) value → Means (.str text) value
  | seq {items values : List Node} : MeanAll items values → Means (.seq items) (.seq values)
  /-- A mapping that is not a call keeps its keys. -/
  | map {entries values : List (String × Node)} : (Node.map entries).intrinsic? = none →
      MeanEach entries values → Means (.map entries) (.map values)
  /-- What a call builds is evaluated again. -/
  | call {node operand built value : Node} {function : Intrinsic} :
      node.intrinsic? = some (function, operand) → Builds function operand built →
      Means built value → Means node value

/-- What the nodes of a list mean. -/
inductive MeanAll : List Node → List Node → Prop
  | nil : MeanAll [] []
  | cons {item value : Node} {items values : List Node} : Means item value →
      MeanAll items values → MeanAll (item :: items) (value :: values)

/-- What the nodes under the keys of a mapping mean. -/
inductive MeanEach : List (String × Node) → List (String × Node) → Prop
  | nil : MeanEach [] []
  | cons {key : String} {node value : Node} {entries values : List (String × Node)} :
      Means node value → MeanEach entries values →
      MeanEach ((key, node) :: entries) ((key, value) :: values)

/-- The scope that variables give when they are bound one after the other. -/
inductive Binds : Parameters → List (String × Node) → Parameters → Prop
  | nil (scope : Parameters) : Binds scope [] scope
  | cons {scope result : Parameters} {name : String} {node value : Node}
      {locals : List (String × Node)} : Means node value →
      Binds (scope.insert name value.text) locals result →
      Binds scope ((name, node) :: locals) result

/-- The node that a function builds from its operand. -/
inductive Builds : Intrinsic → Node → Node → Prop
  /-- The value of the parameter that is named, or else the name. -/
  | ref {operand : Node} {name : String} : Means operand (.str name) →
      Builds .ref operand (.str ((parameters.valueOf? name.toList).getD name))
  | chooseTrue {condition whenTrue whenFalse : Node} : NameHolds condition.text true →
      Builds .choose (.seq [condition, whenTrue, whenFalse]) whenTrue
  | chooseFalse {condition whenTrue whenFalse : Node} : NameHolds condition.text false →
      Builds .choose (.seq [condition, whenTrue, whenFalse]) whenFalse
  | sub (template : String) :
      Builds .sub (.str template) (.str (interpolate parameters template))
  | subLocals {template : String} {locals : List (String × Node)} {scope : Parameters} :
      template ≠ "" → Binds parameters locals scope →
      Builds .sub (.seq [.str template, .map locals]) (.str (interpolate scope template))
  | join {separator elements value : Node} {items : List Node} : Means separator value →
      Means elements (.seq items) →
      Builds .join (.seq [separator, elements])
        (.str (SamTemplate.join value.text (items.map Node.text)))
  | getAttText {path resource name : String} : pieces "." path = [resource, name] →
      resource ≠ "" → name ≠ "" →
      Builds .getAtt (.str path) (.str (attributeStandIn resource name))
  | getAttPair {resource name resourceValue nameValue : Node} : Means resource resourceValue →
      Means name nameValue →
      Builds .getAtt (.seq [resource, name])
        (.str (attributeStandIn resourceValue.text nameValue.text))
  | split {delimiter source delimiterValue sourceValue : Node} :
      Means delimiter delimiterValue → delimiterValue.text ≠ "" → Means source sourceValue →
      Builds .split (.seq [delimiter, source])
        (.seq ((pieces delimiterValue.text sourceValue.text).map .str))
  | select {index list indexValue element : Node} {elements : List Node} :
      Means index indexValue → Means list (.seq elements) →
      Intrinsic.elementAt? elements indexValue = some element →
      Builds .select (.seq [index, list]) element
  | importValue {operand value : Node} : Means operand value →
      Builds .importValue operand (.str (importStandIn value.text))

/-- The value of a condition. -/
inductive Holds : Node → Bool → Prop
  /-- A truth value, or a text that spells one. -/
  | literal {node : Node} {value : Bool} : node.truth? = some value → Holds node value
  /-- One of the forms. -/
  | form {node operand : Node} {form : Condition.Form} {value : Bool} :
      node.condition? = some (form, operand) → FormHolds form operand value → Holds node value
  /-- Anything else spells the truth value that it means. -/
  | meant {node result : Node} {value : Bool} : node.truth? = none → node.condition? = none →
      Means node result → result.truth? = some value → Holds node value

/-- The value of a form with its operand. -/
inductive FormHolds : Condition.Form → Node → Bool → Prop
  /-- Two texts are compared. -/
  | equals {left right leftValue rightValue : Node} : Means left leftValue →
      Means right rightValue →
      FormHolds .equals (.seq [left, right]) (leftValue.text = rightValue.text)
  | not {operand : Node} {value : Bool} : Holds operand value →
      FormHolds .not (.seq [operand]) !value
  | and {operands : List Node} {value : Bool} : AllHold operands value →
      FormHolds .and (.seq operands) value
  | or {operands : List Node} {value : Bool} : SomeHold operands value →
      FormHolds .or (.seq operands) value
  | named {operand : Node} {value : Bool} : NameHolds operand.text value →
      FormHolds .named operand value

/-- Whether all conditions hold, up to the first that does not. -/
inductive AllHold : List Node → Bool → Prop
  | nil : AllHold [] true
  | stop {node : Node} {nodes : List Node} : Holds node false → AllHold (node :: nodes) false
  | next {node : Node} {nodes : List Node} {value : Bool} : Holds node true →
      AllHold nodes value → AllHold (node :: nodes) value

/-- Whether some condition holds, up to the first that does. -/
inductive SomeHold : List Node → Bool → Prop
  | nil : SomeHold [] false
  | stop {node : Node} {nodes : List Node} : Holds node true → SomeHold (node :: nodes) true
  | next {node : Node} {nodes : List Node} {value : Bool} : Holds node false →
      SomeHold nodes value → SomeHold (node :: nodes) value

/-- The value of the condition of a name. -/
inductive NameHolds : String → Bool → Prop
  | intro {name : String} {expression : Node} {value : Bool} :
      conditions.get? name = some expression → Holds expression value → NameHolds name value

end

end

variable {parameters : Parameters} {conditions : Entries Node}

/-- A condition in one of the forms does not spell a truth value by itself. -/
theorem Node.truth?_eq_none_of_condition? {node : Node} {p : Condition.Form × Node}
    (h : node.condition? = some p) : node.truth? = none := by
  cases node with
  | bool | str => exact nomatch h
  | _ => rfl

/-! ### Uniqueness -/

mutual

/-- A node means at most one tree. -/
theorem Means.unique {node r r' : Node} (h : Means parameters conditions node r)
    (h' : Means parameters conditions node r') : r = r' := by
  match h with
  | .null => cases h' with
    | null => rfl
    | call hc => exact nomatch hc
  | .bool value => cases h' with
    | bool => rfl
    | call hc => exact nomatch hc
  | .int value => cases h' with
    | int => rfl
    | call hc => exact nomatch hc
  | .float value => cases h' with
    | float => rfl
    | call hc => exact nomatch hc
  | .str hs => cases h' with
    | str => rfl
    | interpolated hn => exact absurd hs hn
    | call hc => exact nomatch hc
  | .interpolated hn hv => cases h' with
    | str hs => exact absurd hs hn
    | interpolated _ hv' => exact hv.unique hv'
    | call hc => exact nomatch hc
  | .seq hi => cases h' with
    | seq hi' => rw [hi.unique hi']
    | call hc => exact nomatch hc
  | .map hm he => cases h' with
    | map _ he' => rw [he.unique he']
    | call hc => rw [hm] at hc; exact nomatch hc
  | .call hc hb hv => cases h' with
    | map hm => rw [hm] at hc; exact nomatch hc
    | call hc' hb' hv' =>
      cases hc.symm.trans hc'
      cases hb.unique hb'
      exact hv.unique hv'
    | _ => exact nomatch hc
termination_by structural h

theorem MeanAll.unique {items rs rs' : List Node} (h : MeanAll parameters conditions items rs)
    (h' : MeanAll parameters conditions items rs') : rs = rs' := by
  match h with
  | .nil => cases h'; rfl
  | .cons hv hr => cases h' with
    | cons hv' hr' => rw [hv.unique hv', hr.unique hr']
termination_by structural h

theorem MeanEach.unique {entries rs rs' : List (String × Node)}
    (h : MeanEach parameters conditions entries rs)
    (h' : MeanEach parameters conditions entries rs') : rs = rs' := by
  match h with
  | .nil => cases h'; rfl
  | .cons hv hr => cases h' with
    | cons hv' hr' => rw [hv.unique hv', hr.unique hr']
termination_by structural h

theorem Binds.unique {scope r r' : Parameters} {locals : List (String × Node)}
    (h : Binds parameters conditions scope locals r)
    (h' : Binds parameters conditions scope locals r') : r = r' := by
  match h with
  | .nil _ => cases h'; rfl
  | .cons hv hr => cases h' with
    | cons hv' hr' =>
      cases hv.unique hv'
      exact hr.unique hr'
termination_by structural h

theorem Builds.unique {function : Intrinsic} {operand r r' : Node}
    (h : Builds parameters conditions function operand r)
    (h' : Builds parameters conditions function operand r') : r = r' := by
  match h with
  | .ref hv => cases h' with
    | ref hv' => cases hv.unique hv'; rfl
  | .chooseTrue hn => cases h' with
    | chooseTrue => rfl
    | chooseFalse hn' => exact absurd (hn.unique hn') (by simp)
  | .chooseFalse hn => cases h' with
    | chooseTrue hn' => exact absurd (hn.unique hn') (by simp)
    | chooseFalse => rfl
  | .sub _ => cases h'; rfl
  | .subLocals _ hb => cases h' with
    | subLocals _ hb' => rw [hb.unique hb']
  | .join hs he => cases h' with
    | join hs' he' =>
      cases hs.unique hs'
      cases he.unique he'
      rfl
  | .getAttText hp _ _ => cases h' with
    | getAttText hp' => cases hp.symm.trans hp'; rfl
  | .getAttPair hr hn => cases h' with
    | getAttPair hr' hn' => rw [hr.unique hr', hn.unique hn']
  | .split hd _ hs => cases h' with
    | split hd' _ hs' => rw [hd.unique hd', hs.unique hs']
  | .select hi hl he => cases h' with
    | select hi' hl' he' =>
      cases hi.unique hi'
      cases hl.unique hl'
      exact Option.some.inj (he.symm.trans he')
  | .importValue hv => cases h' with
    | importValue hv' => rw [hv.unique hv']
termination_by structural h

/-- A condition has at most one value. -/
theorem Holds.unique {node : Node} {b b' : Bool} (h : Holds parameters conditions node b)
    (h' : Holds parameters conditions node b') : b = b' := by
  match h with
  | .literal ht => cases h' with
    | literal ht' => exact Option.some.inj (ht.symm.trans ht')
    | form hc => exact nomatch ht.symm.trans (Node.truth?_eq_none_of_condition? hc)
    | meant ht' => exact nomatch ht.symm.trans ht'
  | .form hc hv => cases h' with
    | literal ht => exact nomatch ht.symm.trans (Node.truth?_eq_none_of_condition? hc)
    | form hc' hv' =>
      cases hc.symm.trans hc'
      exact hv.unique hv'
    | meant _ hn => exact nomatch hc.symm.trans hn
  | .meant ht hn hv hb => cases h' with
    | literal ht' => exact nomatch ht.symm.trans ht'
    | form hc => exact nomatch hc.symm.trans hn
    | meant _ _ hv' hb' =>
      cases hv.unique hv'
      exact Option.some.inj (hb.symm.trans hb')
termination_by structural h

theorem FormHolds.unique {form : Condition.Form} {operand : Node} {b b' : Bool}
    (h : FormHolds parameters conditions form operand b)
    (h' : FormHolds parameters conditions form operand b') : b = b' := by
  match h with
  | .equals hl hr => cases h' with
    | equals hl' hr' => rw [hl.unique hl', hr.unique hr']
  | .not hv => cases h' with
    | not hv' => rw [hv.unique hv']
  | .and hv => cases h' with
    | and hv' => exact hv.unique hv'
  | .or hv => cases h' with
    | or hv' => exact hv.unique hv'
  | .named hv => cases h' with
    | named hv' => exact hv.unique hv'
termination_by structural h

theorem AllHold.unique {nodes : List Node} {b b' : Bool}
    (h : AllHold parameters conditions nodes b) (h' : AllHold parameters conditions nodes b') :
    b = b' := by
  match h with
  | .nil => cases h'; rfl
  | .stop hv => cases h' with
    | stop => rfl
    | next hv' => exact nomatch hv.unique hv'
  | .next hv hr => cases h' with
    | stop hv' => exact nomatch hv.unique hv'
    | next _ hr' => exact hr.unique hr'
termination_by structural h

theorem SomeHold.unique {nodes : List Node} {b b' : Bool}
    (h : SomeHold parameters conditions nodes b) (h' : SomeHold parameters conditions nodes b') :
    b = b' := by
  match h with
  | .nil => cases h'; rfl
  | .stop hv => cases h' with
    | stop => rfl
    | next hv' => exact nomatch hv.unique hv'
  | .next hv hr => cases h' with
    | stop hv' => exact nomatch hv.unique hv'
    | next _ hr' => exact hr.unique hr'
termination_by structural h

theorem NameHolds.unique {name : String} {b b' : Bool} (h : NameHolds parameters conditions name b)
    (h' : NameHolds parameters conditions name b') : b = b' := by
  match h with
  | .intro hc hv => cases h' with
    | intro hc' hv' =>
      cases hc.symm.trans hc'
      exact hv.unique hv'
termination_by structural h

end

/-! ### Normal trees -/

/-- Whether a mapping is a call depends on its keys only. -/
theorem Node.intrinsic?_map_eq_none {entries values : List (String × Node)}
    (hk : values.map (·.1) = entries.map (·.1)) (h : (Node.map entries).intrinsic? = none) :
    (Node.map values).intrinsic? = none := by
  -- Both have one entry, under the same key, or neither has.
  match entries, values with
  | [], [] => rfl
  | [(name, node)], [(name', value)] =>
    obtain rfl : name' = name := by simpa using hk
    simpa [intrinsic?, call?] using h
  | [], _ :: _ | [_], [] | [_], _ :: _ :: _ | _ :: _ :: _, [] | _ :: _ :: _, [_] => simp at hk
  | _ :: _ :: _, _ :: _ :: _ => rfl

theorem MeanEach.keys {entries values : List (String × Node)}
    (h : MeanEach parameters conditions entries values) :
    values.map (·.1) = entries.map (·.1) := by
  match h with
  | .nil => rfl
  | .cons _ hr => rw [List.map_cons, List.map_cons, hr.keys]
termination_by structural h

mutual

/-- What a node means is normal. -/
theorem Means.normal {node r : Node} (h : Means parameters conditions node r) :
    r.Normal parameters := by
  match h with
  | .null => exact .null
  | .bool value => exact .bool value
  | .int value => exact .int value
  | .float value => exact .float value
  | .str hs => exact .str hs
  | .interpolated _ hv => exact hv.normal
  | .seq hi => exact .seq hi.normal
  | .map hm he => exact .map (Node.intrinsic?_map_eq_none he.keys hm) he.normal
  | .call _ _ hv => exact hv.normal
termination_by structural h

theorem MeanAll.normal {items values : List Node} (h : MeanAll parameters conditions items values) :
    ∀ value ∈ values, value.Normal parameters := by
  match h with
  | .nil => exact fun _ hmem => absurd hmem List.not_mem_nil
  | .cons hv hr => exact List.forall_mem_cons.2 ⟨hv.normal, hr.normal⟩
termination_by structural h

theorem MeanEach.normal {entries values : List (String × Node)}
    (h : MeanEach parameters conditions entries values) :
    ∀ entry ∈ values, entry.2.Normal parameters := by
  match h with
  | .nil => exact fun _ hmem => absurd hmem List.not_mem_nil
  | .cons hv hr => exact List.forall_mem_cons.2 ⟨hv.normal, hr.normal⟩
termination_by structural h

end

theorem MeanAll.of_forall₂ {items values : List Node}
    (h : List.Forall₂ (Means parameters conditions) items values) :
    MeanAll parameters conditions items values := by
  induction h with
  | nil => exact .nil
  | cons hv _ ih => exact .cons hv ih

theorem MeanEach.of_forall₂ {entries values : List (String × Node)}
    (h : List.Forall₂ (fun entry value => value.1 = entry.1 ∧
      Means parameters conditions entry.2 value.2) entries values) :
    MeanEach parameters conditions entries values := by
  induction h with
  | nil => exact .nil
  | @cons entry value _ _ hv _ ih =>
    obtain ⟨key, node⟩ := entry
    obtain ⟨_, _⟩ := value
    obtain ⟨rfl, hv⟩ := hv
    exact .cons hv ih

/-- A normal tree means itself. -/
theorem Means.of_normal {node : Node} (h : node.Normal parameters) :
    Means parameters conditions node node := by
  induction h with
  | null => exact .null
  | bool value => exact .bool value
  | int value => exact .int value
  | float value => exact .float value
  | str hs => exact .str hs
  | seq _ ih => exact .seq (.of_forall₂ (List.forall₂_same.2 ih))
  | map hm _ ih =>
    exact .map hm (.of_forall₂ (List.forall₂_same.2 fun entry hmem => ⟨rfl, ih entry hmem⟩))

/-- A normal tree means nothing else. -/
theorem Means.eq_of_normal {node r : Node} (h : Means parameters conditions node r)
    (hn : node.Normal parameters) : r = node :=
  h.unique (.of_normal hn)

end SamTemplate
