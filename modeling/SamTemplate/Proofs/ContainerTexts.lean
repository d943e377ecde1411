import Mathlib.Data.List.Perm.Basic
import SamTemplate.Proofs.EffectiveSettings
import SamTemplate.Proofs.JsonText
import SamTemplate.Proofs.MalformedCalls
import SamTemplate.Proofs.Shadowing

/-!
# Texts of containers

The text of a sequence or mapping is its JSON text, with the keys of every mapping in order. So it
does not depend on the order of entries (`Node.Alike.text_eq`), and this is all that it leaves out,
but for floating point numbers: the JSON of a tree gives back its items, and its entries up to
their order.

* `Node.entriesJson_perm`: entries with different keys each have their JSON among that of all;
* `Node.FloatFree.alike`: trees with the same JSON differ in the order of entries only;
* `Node.ExactContainer.text_eq_iff`: so do containers with the same text;
* `Node.text_canonical`: the same holds of what is made of texts, which are comparisons in
  conditions, inputs of schedules, settings and environment variables.
-/

namespace SamTemplate

open Node Evaluation

section

variable {α β γ : Type} {R : α → β → Prop} {l : List α} {l' : List β}

/-- What is related in two lists is in them. -/
theorem forall₂_mem (h : List.Forall₂ R l l') :
    List.Forall₂ (fun a b => a ∈ l ∧ b ∈ l' ∧ R a b) l l' :=
  List.forall₂_iff_zip.2 ⟨h.length_eq, fun hab =>
    ⟨(List.of_mem_zip hab).1, (List.of_mem_zip hab).2, List.forall₂_zip h hab⟩⟩

theorem forall₂_of_map_eq {f : α → γ} {g : β → γ} (h : l.map f = l'.map g) :
    List.Forall₂ (fun a b => f a = g b) l l' := by
  rw [← List.forall₂_eq_eq_eq, List.forall₂_map_left_iff, List.forall₂_map_right_iff] at h
  exact h

end

/-- An entry under a new key is put beside the others. -/
theorem Entries.insertSorted_perm {α : Type} {key : String} {value : α} {entries : Entries α}
    (h : key ∉ entries.keys) : (insertSorted key value entries).Perm ((key, value) :: entries) := by
  induction entries with
  | nil => exact .refl _
  | cons pair rest ih =>
    obtain ⟨hne, hrest⟩ := not_or.1 (List.mem_cons.not.1 h)
    simp only [insertSorted]
    split
    · exact .refl _
    · rw [if_neg (Ne.symm hne)]
      exact ((ih hrest).cons pair).trans (.swap _ _ rest)

namespace Node

variable {a b : Node}

/-! ### Trees without floating point numbers -/

/-- No floating point number is in a tree. -/
inductive FloatFree : Node → Prop
  | null : FloatFree .null
  | bool (value : Bool) : FloatFree (.bool value)
  | int (value : Int64) : FloatFree (.int value)
  | str (text : String) : FloatFree (.str text)
  | seq {items : List Node} : (∀ item ∈ items, FloatFree item) → FloatFree (.seq items)
  | map {entries : Entries Node} : (∀ entry ∈ entries, FloatFree entry.2) →
      FloatFree (.map entries)

attribute [simp] FloatFree.null FloatFree.bool FloatFree.int FloatFree.str

@[simp]
theorem floatFree_seq {items : List Node} :
    (Node.seq items).FloatFree ↔ ∀ item ∈ items, item.FloatFree :=
  ⟨fun | .seq h => h, .seq⟩

@[simp]
theorem floatFree_map {entries : Entries Node} :
    (Node.map entries).FloatFree ↔ ∀ entry ∈ entries, entry.2.FloatFree :=
  ⟨fun | .map h => h, .map⟩

theorem exists_of_mem_entriesJson {entries : Entries Node} {member : String × Json}
    (h : member ∈ entriesJson entries) : ∃ entry ∈ entries, entry.2.toJson = member.2 := by
  have hget := (Entries.get?_eq_some_iff (sorted_entriesJson entries).distinct).2 h
  rw [get?_entriesJson] at hget
  obtain ⟨node, hnode, hjson⟩ := Option.map_eq_some_iff.1 hget
  exact ⟨_, Entries.mem_of_get? hnode, hjson⟩

theorem FloatFree.toJson (h : a.FloatFree) : a.toJson.FloatFree := by
  induction h with
  | null => exact .null
  | bool value => exact .bool value
  | int value => exact .int _
  | str text => exact .str text
  | seq _ ih =>
    rw [Node.toJson, itemsJson_eq_map]
    exact .arr (List.forall_mem_map.2 ih)
  | map _ ih =>
    refine .obj fun member hmem => ?_
    obtain ⟨entry, hentry, hjson⟩ := exists_of_mem_entriesJson hmem
    exact hjson ▸ ih entry hentry

/-! ### From the JSON back to the tree -/

/-- The JSON of entries with different keys is that of each of them, in some order. -/
theorem entriesJson_perm {entries : Entries Node} (hd : entries.Distinct) :
    (entriesJson entries).Perm (entries.map fun entry => (entry.1, entry.2.toJson)) := by
  induction entries with
  | nil => exact .nil
  | cons entry rest ih =>
    obtain ⟨hkey, hrest⟩ := List.nodup_cons.1 hd
    have hnew : entry.1 ∉ Entries.keys (entriesJson rest) := by
      rw [← Entries.get?_eq_none_iff, get?_entriesJson, Entries.get?_eq_none_iff.2 hkey]
      rfl
    exact (Entries.insertSorted_perm hnew).trans ((ih hrest).cons _)

/-- Entries with the same JSON have the same keys, with values of the same JSON. -/
theorem exists_perm_of_entriesJson_eq {entries entries' : Entries Node} (hd : entries.Distinct)
    (hd' : entries'.Distinct) (h : entriesJson entries = entriesJson entries') :
    ∃ permuted, entries.Perm permuted ∧
      List.Forall₂ (OnValues fun a b => a.toJson = b.toJson) permuted entries' := by
  have hp := (entriesJson_perm hd').symm.trans (h ▸ entriesJson_perm hd)
  have hself : List.Forall₂ (fun member entry => (entry.1, entry.2.toJson) = member)
      (entries.map fun entry => (entry.1, entry.2.toJson)) entries :=
    List.forall₂_map_left_iff.2 (List.forall₂_same.2 fun _ _ => rfl)
  -- Entries go where their JSON goes.
  obtain ⟨permuted, hpermuted, hperm⟩ := List.perm_comp_forall₂ hp hself
  refine ⟨permuted, hperm.symm, (List.forall₂_map_left_iff.1 hpermuted).flip.imp ?_⟩
  exact fun _ _ h => Prod.mk.inj h

/-- Trees without floating point numbers that have the same JSON differ in the order of entries
    only. -/
theorem FloatFree.alike (ha : a.FloatFree) (hb : b.FloatFree) (hw : a.WellFormed)
    (hw' : b.WellFormed) (h : a.toJson = b.toJson) : Alike a b := by
  -- The JSON tells the sort of a node, so the second tree is built as the first is.
  induction ha generalizing b with
  | null => cases hb with
    | null => exact .refl hw
    | _ => exact nomatch h
  | bool value => cases hb with
    | bool value' => exact Json.bool.inj h ▸ .refl hw
    | _ => exact nomatch h
  | int value => cases hb with
    | int value' => exact Int64.toInt_inj.1 (Json.int.inj h) ▸ .refl hw
    | _ => exact nomatch h
  | str text => cases hb with
    | str text' => exact Json.str.inj h ▸ .refl hw
    | _ => exact nomatch h
  | @seq items _ ih => cases hb with
    | @seq items' hb =>
      rw [wellFormed_seq] at hw hw'
      have hjson : items.map Node.toJson = items'.map Node.toJson := by
        rw [← itemsJson_eq_map, ← itemsJson_eq_map]
        exact Json.arr.inj h
      refine (Alike.View.seq ((forall₂_mem (forall₂_of_map_eq hjson)).imp ?_)).alike
      rintro item item' ⟨hmem, hmem', heq⟩
      exact ih item hmem (hb item' hmem') (hw item hmem) (hw' item' hmem') heq
    | _ => exact nomatch h
  | @map entries _ ih => cases hb with
    | @map entries' hb =>
      obtain ⟨hd, hw⟩ := wellFormed_map.1 hw
      obtain ⟨hd', hw'⟩ := wellFormed_map.1 hw'
      obtain ⟨permuted, hp, hvalues⟩ := exists_perm_of_entriesJson_eq hd hd' (Json.obj.inj h)
      refine (Alike.View.map ⟨hd, permuted, hp, (forall₂_mem hvalues).imp ?_⟩).alike
      rintro entry entry' ⟨hmem, hmem', hkey, heq⟩
      replace hmem := hp.mem_iff.2 hmem
      exact ⟨hkey, ih entry hmem (hb entry' hmem') (hw entry hmem) (hw' entry' hmem') heq⟩
    | _ => exact nomatch h

/-! ### Containers -/

/-- A sequence or mapping. -/
def isContainer : Node → Bool
  | .seq _ | .map _ => true
  | _ => false

/-- A sequence or mapping without floating point numbers, in which no mapping has a key twice. -/
structure ExactContainer (node : Node) : Prop where
  isContainer : node.isContainer = true
  wellFormed : node.WellFormed
  floatFree : node.FloatFree

namespace ExactContainer

theorem text_eq_compact (h : a.ExactContainer) : a.text = a.toJson.compact := by
  have hc := h.isContainer
  cases a with
  | seq | map => rfl
  | _ => exact nomatch hc

theorem text_ne_empty (h : a.ExactContainer) : a.text ≠ "" := by
  obtain ⟨c, chars, hchars, -⟩ := h.floatFree.toJson.exists_lead
  rw [h.text_eq_compact, Json.compact, hchars]
  exact fun heq => nomatch String.toList_ofList.symm.trans (congrArg String.toList heq)

/-- Containers with the same text differ in the order of entries only, and the other way round. -/
theorem text_eq_iff (ha : a.ExactContainer) (hb : b.ExactContainer) :
    a.text = b.text ↔ a.Reordered b := by
  constructor
  · intro h
    rw [ha.text_eq_compact, hb.text_eq_compact] at h
    have hjson := Json.compact_injective ha.floatFree.toJson hb.floatFree.toJson h
    exact (ha.floatFree.alike hb.floatFree ha.wellFormed hb.wellFormed hjson).reordered
  · exact fun h => (Alike.mk ha.wellFormed h).text_eq

/-- A node that is no container can have the text of one, and so can a container with a number
    that is not finite. -/
example : (Node.str "[null]").text = (Node.seq [.null]).text ∧
    (Node.seq [.float ⟨0x7ff0000000000000⟩]).text = (Node.seq [.null]).text :=
  ⟨by decide, by decide⟩

end ExactContainer

end Node

/-! ### What is made of texts -/

/-- A comparison resolves its operands one after the other, and compares their texts. -/
theorem Session.decideAt_equals {s t u : Session} {budget : Budget} {left right a b : Node}
    (hs : budget.spent = false) (hl : s.resolveAt budget.deeper.deeper left = (a, t))
    (hr : t.resolveAt budget.deeper.deeper right = (b, u)) :
    s.decideAt budget (.call Condition.Form.equals.name (.seq [left, right]))
      = (decide (a.text = b.text), u) := by
  have hrun := s.decideAt_spec budget (.call Condition.Form.equals.name (.seq [left, right]))
  obtain ⟨fuel, hfuel⟩ := s.exists_nesting_eq budget
  rw [hfuel, Resolution.decide, Condition.decideStep, if_neg (by simp [hs]),
    Condition.ofNode_call] at hrun
  generalize s.decideAt budget _ = result at hrun ⊢
  obtain ⟨a', t', hleft, hrun⟩ := bind_eq_some_iff.1 hrun
  obtain ⟨b', u', hright, hrun⟩ := bind_eq_some_iff.1 hrun
  -- Whatever the fuel, the operands are resolved to what the sessions resolve them to.
  cases hl.symm.trans (Resolution.resolveAt_eq hleft)
  cases hr.symm.trans (Resolution.resolveAt_eq hright)
  exact (Option.some.inj hrun).symm

/-- An event that is a schedule, with the nodes that its expression and its input are taken
    from. -/
structure IsSchedule (event expression input : Node) : Prop where
  type : (event.get? "Type").map text = some "Schedule"
  properties : ∃ properties : Entries Node, event.get? "Properties" = some (.map properties) ∧
    properties.get? "Schedule" = some expression ∧ properties.get? "Input" = some input

theorem event?_of_isSchedule {event expression input : Node}
    (h : IsSchedule event expression input) (hexpression : expression.text ≠ "")
    (hinput : input.text ≠ "") :
    event? event = some (.schedule expression.text (some input.text)) := by
  obtain ⟨htype, properties, hproperties, hschedule, hin⟩ := h
  obtain ⟨type, hget, htype⟩ := Option.map_eq_some_iff.1 htype
  simp [event?, properties?_eq_some_iff.2 hproperties, hget, htype, hschedule, hin, hexpression,
    hinput]

theorem textUnder_of_get? {properties : Entries Node} {key : String} {node : Node}
    (h : properties.get? key = some node) (ht : node.text ≠ "") (fallback : String) :
    textUnder properties key fallback = node.text := by
  rw [textUnder_eq, textOf?, h, Option.map_some, Option.filter_some, if_pos (by simpa using ht)]
  rfl

theorem get?_environmentVariables {vars : Entries Node} (hd : vars.Distinct) (key : String) :
    (environmentVariables (.map vars)).get? key = (vars.get? key).map text :=
  get?_ofList_map_text hd key

namespace Node

/-- The texts of two sequences or mappings without floating point numbers are equal if and only
    if the two differ at most in the order of the entries of their mappings. So a comparison of
    what is resolved to them holds, schedules with them as inputs are the same events, and
    settings and variables that they are given for are the same texts, in just this case. -/
theorem text_canonical {a b : Node} (ha : a.ExactContainer) (hb : b.ExactContainer) :
    (a.text = b.text ↔ a.Reordered b) ∧
    (∀ (s t u : Session) (budget : Budget) (left right : Node), budget.spent = false →
      s.resolveAt budget.deeper.deeper left = (a, t) →
      t.resolveAt budget.deeper.deeper right = (b, u) →
      ((s.decideAt budget (.call Condition.Form.equals.name (.seq [left, right]))).1 = true
        ↔ a.Reordered b)) ∧
    (∀ event event' expression : Node, expression.text ≠ "" → IsSchedule event expression a →
      IsSchedule event' expression b → (event? event = event? event' ↔ a.Reordered b)) ∧
    (∀ (properties properties' : Entries Node) (key fallback : String),
      properties.get? key = some a → properties'.get? key = some b →
      (textUnder properties key fallback = textUnder properties' key fallback
        ↔ a.Reordered b)) ∧
    ∀ (vars vars' : Entries Node) (key : String), vars.Distinct →
      vars'.Distinct → vars.get? key = some a → vars'.get? key = some b →
      ((environmentVariables (.map vars)).get? key
        = (environmentVariables (.map vars')).get? key ↔ a.Reordered b) := by
  have htext := ha.text_eq_iff hb
  refine ⟨htext, fun s t u budget left right hs hl hr => ?_,
    fun event event' expression hexpression h h' => ?_,
    fun properties properties' key fallback h h' => ?_,
    fun vars vars' key hd hd' h h' => ?_⟩
  · rw [Session.decideAt_equals hs hl hr, decide_eq_true_iff, htext]
  · rw [event?_of_isSchedule h hexpression ha.text_ne_empty,
      event?_of_isSchedule h' hexpression hb.text_ne_empty, ← htext]
    simp
  · rw [textUnder_of_get? h ha.text_ne_empty, textUnder_of_get? h' hb.text_ne_empty, htext]
  · rw [get?_environmentVariables hd, get?_environmentVariables hd', h, h', Option.map_some,
      Option.map_some, Option.some_inj, htext]

/-- The input of a schedule. -/
def wakeUp : Node :=
  .map [("source", .str "cron"),
    ("detail", .map [("ids", .seq [.int 1, .str "1", .null]), ("say", .str "\"[true]\"")])]

/-- The same input with its entries the other way round. -/
def wokenUp : Node :=
  .map [("detail", .map [("say", .str "\"[true]\""), ("ids", .seq [.int 1, .str "1", .null])]),
    ("source", .str "cron")]

theorem exactContainer_wakeUp : wakeUp.ExactContainer :=
  ⟨rfl, by simp [wakeUp, Entries.Distinct, Entries.keys], by simp [wakeUp]⟩

theorem exactContainer_wokenUp : wokenUp.ExactContainer :=
  ⟨rfl, by simp [wokenUp, Entries.Distinct, Entries.keys], by simp [wokenUp]⟩

theorem reordered_wakeUp : wakeUp.Reordered wokenUp :=
  .swap ⟨rfl, .refl _⟩ ⟨rfl, .swap ⟨rfl, .refl _⟩ ⟨rfl, .refl _⟩⟩

/-- The settings of a schedule that has an input. -/
def scheduled (input : Node) : Entries Node :=
  [("Schedule", .str "rate(1 minute)"), ("Input", input)]

/-- Either order of the input has the same text, is equal to the other one in a condition, and
    gives the same event, the same setting and the same variable. -/
theorem text_canonical_wakeUp :
    wakeUp.text = wokenUp.text ∧
    ((Session.start .empty []).decideAt {}
      (.call "Fn::Equals" (.seq [wakeUp, wokenUp]))).1 = true ∧
    event? (.map [("Type", .str "Schedule"), ("Properties", .map (scheduled wakeUp))])
      = event? (.map [("Type", .str "Schedule"), ("Properties", .map (scheduled wokenUp))]) ∧
    textUnder (scheduled wakeUp) "Input" "none" = textUnder (scheduled wokenUp) "Input" "none" ∧
    (environmentVariables (.map (scheduled wakeUp))).get? "Input"
      = (environmentVariables (.map (scheduled wokenUp))).get? "Input" := by
  obtain ⟨htext, hequals, hevent, hsetting, hvariable⟩ :=
    text_canonical exactContainer_wakeUp exactContainer_wokenUp
  have hschedule (input : Node) : IsSchedule
      (.map [("Type", .str "Schedule"), ("Properties", .map (scheduled input))])
      (.str "rate(1 minute)") input := ⟨rfl, _, rfl, rfl, rfl⟩
  refine ⟨htext.2 reordered_wakeUp, ?_, ?_, ?_, ?_⟩
  · exact (hequals (.start .empty []) _ _ {} wakeUp wokenUp rfl rfl rfl).2 reordered_wakeUp
  · exact (hevent _ _ _ (by decide) (hschedule _) (hschedule _)).2 reordered_wakeUp
  · exact (hsetting (scheduled wakeUp) (scheduled wokenUp) _ _ rfl rfl).2 reordered_wakeUp
  · exact (hvariable (scheduled wakeUp) (scheduled wokenUp) _ (by decide) (by decide) rfl rfl).2
      reordered_wakeUp

end Node

end SamTemplate
