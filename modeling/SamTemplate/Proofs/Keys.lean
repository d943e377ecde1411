import SamTemplate.Proofs.Collected
import SamTemplate.Proofs.Compositional
import SamTemplate.Proofs.DocumentOrder
import SamTemplate.Proofs.NumberText

/-!
# Keys of resolved trees

Resolving a tree changes texts and puts values in the place of calls, but makes no
mapping: every mapping of the result was one in the tree, under the same keys. So what
holds of all keys of a tree, such as that none is empty, holds of all keys of the tree
that it is resolved to (`Session.resolve_keysAll`); and documents that are read have no
empty key (`keysAll_of_readDocument`).
-/

namespace SamTemplate

open Node Evaluation

namespace Node

variable {p : String → Prop} {node operand : Node} {key : String}

/-- All keys of mappings in a tree have a property. -/
inductive KeysAll (p : String → Prop) : Node → Prop
  | null : KeysAll p .null
  | bool (value : Bool) : KeysAll p (.bool value)
  | int (value : Int64) : KeysAll p (.int value)
  | float (value : Binary64) : KeysAll p (.float value)
  | str (text : String) : KeysAll p (.str text)
  | seq {items : List Node} : (∀ item ∈ items, KeysAll p item) → KeysAll p (.seq items)
  | map {entries : List (String × Node)} : (∀ entry ∈ entries, p entry.1) →
      (∀ entry ∈ entries, KeysAll p entry.2) → KeysAll p (.map entries)

@[simp]
theorem keysAll_seq {items : List Node} :
    (Node.seq items).KeysAll p ↔ ∀ item ∈ items, item.KeysAll p :=
  ⟨fun | .seq h => h, .seq⟩

@[simp]
theorem keysAll_map {entries : Entries Node} :
    (Node.map entries).KeysAll p ↔ ∀ entry ∈ entries, p entry.1 ∧ entry.2.KeysAll p :=
  ⟨fun | .map hk hv => fun entry hmem => ⟨hk entry hmem, hv entry hmem⟩,
    fun h => .map (fun entry hmem => (h entry hmem).1) fun entry hmem => (h entry hmem).2⟩

/-- A call is a mapping with the name of the function for its key. -/
@[simp]
theorem keysAll_call : (call key operand).KeysAll p ↔ p key ∧ operand.KeysAll p := by
  simp [call]

/-- What stands under a key of a mapping has only such keys itself. -/
theorem KeysAll.get? {value : Node} (h : node.KeysAll p) (hget : node.get? key = some value) :
    value.KeysAll p := by
  cases h with
  | map _ hvalues => exact hvalues _ (Entries.mem_of_get? hget)
  | _ => exact nomatch hget

/-- The operand of a call has only such keys, whatever is called. -/
theorem KeysAll.operand_of_call? {name : String} (h : node.KeysAll p)
    (hc : node.call? = some (name, operand)) : operand.KeysAll p := by
  unfold call? at hc
  split at hc
  · cases hc
    simpa using (keysAll_map.1 h _ List.mem_cons_self).2
  · exact nomatch hc

end Node

/-! ### Resolution -/

namespace Evaluation

variable {α β : Type} {P : α → Prop} {Q : β → Prop}

/-- Whatever a computation gives has a property. -/
def Establishes (Q : β → Prop) (x : Evaluation β) : Prop := ∀ s b t, x s = some (b, t) → Q b

namespace Establishes

theorem pure {b : β} (h : Q b) : Establishes Q (Pure.pure b) := by
  intro s b' t hb
  obtain ⟨rfl, -⟩ := pure_eq_some_iff.1 hb
  exact h

/-- What the first part gives has some property, from which that of the whole follows. -/
theorem bind {x : Evaluation α} {f : α → Evaluation β} (hx : Establishes P x)
    (hf : ∀ a, P a → Establishes Q (f a)) : Establishes Q (x >>= f) := by
  intro s b t hb
  obtain ⟨a, u, ha, hb⟩ := bind_eq_some_iff.1 hb
  exact hf a (hx s a u ha) u b t hb

/-- Where what comes last has the property, what comes before does not matter. -/
theorem after {x : Evaluation α} {f : α → Evaluation β} (hf : ∀ a, Establishes Q (f a)) :
    Establishes Q (x >>= f) :=
  bind (P := fun _ => True) (fun _ _ _ _ => trivial) fun a _ => hf a

theorem decline (notice : Notice) (P : α → Prop) :
    Establishes (fun result => ∀ a ∈ result, P a)
      (Evaluation.decline notice : Evaluation (Option α)) :=
  after fun _ => pure (by simp)

theorem some {a : α} (h : P a) :
    Establishes (fun result => ∀ b ∈ result, P b) (Pure.pure (Option.some a)) :=
  pure fun b hb => by
    obtain rfl := Option.some.inj hb
    exact h

/-- If each outcome has the property, so has each in the list of them. -/
theorem mapM {f : α → Evaluation β} {l : List α} (hf : ∀ a ∈ l, Establishes Q (f a)) :
    Establishes (fun results => ∀ b ∈ results, Q b) (l.mapM f) := by
  induction l with
  | nil => simpa only [List.mapM_nil] using pure (by simp)
  | cons a l ih =>
    obtain ⟨ha, hl⟩ := List.forall_mem_cons.1 hf
    rw [List.mapM_cons]
    refine bind ha fun b hb => bind (ih hl) fun bs hbs => pure ?_
    exact List.forall_mem_cons.2 ⟨hb, hbs⟩

end Establishes

end Evaluation

namespace Intrinsic

variable {p : String → Prop} {resolve : Node → Evaluation Node}
  {holds : String → Evaluation Bool} {operand node : Node}

/-- An expansion, if there is one, has only such keys. -/
abbrev ExpandsTo (p : String → Prop) : Evaluation (Option Node) → Prop :=
  Establishes fun result => ∀ node ∈ result, node.KeysAll p

/-- A reference is replaced by a text, which has no keys. -/
theorem applyRef_keysAll : ExpandsTo p (applyRef resolve operand) := by
  refine .after fun target => ?_
  cases target with
  | str name => exact .after fun _ => .some (.str _)
  | _ => exact .decline _ _

/-- A choice is replaced by one of its branches. -/
theorem applyChoose_keysAll (h : operand.KeysAll p) : ExpandsTo p (applyChoose holds operand) := by
  unfold applyChoose
  split
  · rename_i condition whenTrue whenFalse
    -- Both branches have such keys, whichever is chosen.
    obtain ⟨-, htrue, hfalse⟩ : condition.KeysAll p ∧ whenTrue.KeysAll p ∧ whenFalse.KeysAll p := by
      simpa using h
    refine .after fun value => .some ?_
    cases value with
    | true => exact htrue
    | false => exact hfalse
  · exact .decline _ _

theorem applySub_keysAll : ExpandsTo p (applySub resolve operand) := by
  unfold applySub
  split
  · exact .after fun _ => .some (.str _)
  · split
    · exact .decline _ _
    · exact .after fun _ => .after fun _ => .some (.str _)
  all_goals exact .decline _ _

theorem applyJoin_keysAll : ExpandsTo p (applyJoin resolve operand) := by
  unfold applyJoin
  split
  · refine .after fun separator => .after fun elements => ?_
    cases elements with
    | seq items => exact .after fun _ => .some (.str _)
    | _ => exact .decline _ _
  · exact .decline _ _

theorem applyGetAtt_keysAll : ExpandsTo p (applyGetAtt resolve operand) := by
  unfold applyGetAtt
  split
  · split
    · split
      · exact .some (.str _)
      · exact .decline _ _
    · exact .decline _ _
  · exact .after fun _ => .after fun _ => .some (.str _)
  all_goals exact .decline _ _

/-- A text is split into texts. -/
theorem applySplit_keysAll : ExpandsTo p (applySplit resolve operand) := by
  unfold applySplit
  split
  · refine .after fun delimiter => ?_
    by_cases hd : delimiter = ""
    · simpa only [if_pos hd] using .decline _ _
    · simp only [if_neg hd]
      refine .after fun source => .some (.seq fun item hmem => ?_)
      obtain ⟨piece, -, rfl⟩ := List.mem_map.1 hmem
      exact .str _
  · exact .decline _ _

/-- A selected element is one of a list that the operand is resolved to. -/
theorem applySelect_keysAll (hr : ∀ node, node.KeysAll p → Establishes (KeysAll p) (resolve node))
    (h : operand.KeysAll p) : ExpandsTo p (applySelect resolve operand) := by
  unfold applySelect
  split
  · rename_i index list
    obtain ⟨-, hlist⟩ : index.KeysAll p ∧ list.KeysAll p := by simpa using h
    refine .after fun index => .bind (hr list hlist) fun list hlist => ?_
    cases list with
    | seq elements =>
      dsimp only
      rcases he : elementAt? elements index with _ | element
      · exact .decline _ _
      · -- An element that is found is one of the list.
        obtain ⟨i, -, he⟩ := Option.bind_eq_some_iff.1 he
        split at he
        · exact .some (keysAll_seq.1 hlist _ (List.mem_of_getElem? he))
        · exact nomatch he
    | _ => exact .decline _ _
  · exact .decline _ _

/-- Of the functions, only a choice and a selection give what is no text or list of texts, and
    they give a part of their operand. -/
theorem expand_keysAll (hr : ∀ node, node.KeysAll p → Establishes (KeysAll p) (resolve node))
    (h : node.KeysAll p) : ExpandsTo p (expand resolve holds node) := by
  unfold expand
  split
  · refine .after fun _ => .pure fun result hresult => ?_
    split at hresult
    · exact nomatch hresult
    · obtain rfl := Option.some.inj hresult
      exact .str _
  · split
    · exact .pure (by simp)
    · rename_i name operand hc
      have hoperand := h.operand_of_call? hc
      split
      · exact .pure (by simp)
      · rename_i function _
        cases function with
        | ref => exact applyRef_keysAll
        | choose => exact applyChoose_keysAll hoperand
        | sub => exact applySub_keysAll
        | join => exact applyJoin_keysAll
        | getAtt => exact applyGetAtt_keysAll
        | split => exact applySplit_keysAll
        | select => exact applySelect_keysAll hr hoperand
        | importValue => exact .after fun _ => .some (.str _)

end Intrinsic

/-- What a tree is resolved to has no keys of another sort than the tree. -/
theorem Resolution.resolve_keysAll {p : String → Prop} (fuel : Nat) (budget : Budget) {node : Node}
    (h : node.KeysAll p) : Establishes (KeysAll p) (resolve fuel budget node) := by
  induction fuel generalizing budget node with
  | zero => exact fun _ _ _ hr => nomatch hr
  | succ fuel ih =>
    rw [resolve]
    unfold walkStep
    split
    · exact .after fun _ => .pure h
    · refine .bind (Intrinsic.expand_keysAll (fun node => ih budget.deeper) h) fun expanded he => ?_
      rcases expanded with _ | expanded
      · -- Nothing is expanded: what is below is resolved under the same keys.
        cases node with
        | seq items =>
          exact .bind (.mapM fun item hmem => ih _ (keysAll_seq.1 h item hmem))
            fun _ hi => .pure (.seq hi)
        | map entries =>
          refine .bind (.mapM (Q := fun entry => p entry.1 ∧ entry.2.KeysAll p)
            fun entry hmem => ?_) fun _ hi => .pure (keysAll_map.2 hi)
          obtain ⟨hkey, hvalue⟩ := keysAll_map.1 h entry hmem
          exact .bind (ih _ hvalue) fun value hv => .pure ⟨hkey, hv⟩
        | _ => exact .pure h
      · exact ih _ (he expanded rfl)

/-- A session resolves a tree to one without keys of another sort, too. -/
theorem Session.resolve_keysAll {p : String → Prop} (s : Session) {node : Node}
    (h : node.KeysAll p) : (s.resolve node).1.KeysAll p :=
  Resolution.resolve_keysAll (s.nesting {}) {} h s _ _ (resolveAt_spec s {} node)

/-! ### Documents -/

namespace Node

theorem keysAll_ofInt (p : String → Prop) (i : Int) : (ofInt i).KeysAll p := by
  unfold ofInt
  split
  · exact .int _
  · exact .float _

/-- The text of a key is not empty: an empty text is no key, and all others spell something. -/
theorem keyText?_ne_empty :
    ∀ (key : Yaml.Value) (name : String), keyText? key = some name → name ≠ ""
  | .str text, name, h => by
    unfold keyText? at h
    split at h
    · exact nomatch h
    · rename_i hne
      exact Option.some.inj h ▸ hne
  | .bool value, name, h => by
    obtain rfl := Option.some.inj h
    cases value <;> decide
  | .int value, name, h => Option.some.inj h ▸ intText_ne_empty value
  | .float value, name, h =>
    Option.some.inj h ▸ FloatLayout.text_ne_empty (by decide) (by decide) value
  | .tagged _ value, name, h => keyText?_ne_empty value name h

/-- A function that a tag calls has a name. -/
theorem KeysAll.tagged {node : Node} (h : node.KeysAll (· ≠ "")) (tag : String) :
    (tagged tag node).KeysAll (· ≠ "") := by
  unfold Node.tagged
  dsimp only
  split
  · rename_i function hfunction
    refine keysAll_call.2 ⟨?_, h⟩
    -- The empty text is not the name of a function in any of the tables of tags.
    rintro rfl
    split at hfunction
    · unfold sequenceCall? at hfunction
      split at hfunction <;> simp at hfunction
    · unfold mappingCall? at hfunction
      split at hfunction <;> simp at hfunction
    · unfold scalarCall? at hfunction
      split at hfunction <;> simp at hfunction
  · exact h

mutual

/-- The keys in what is read from a value are those of its mappings and the names of functions. -/
theorem keysAll_ofYaml : ∀ value : Yaml.Value, (ofYaml value).KeysAll (· ≠ "")
  | .null => .null
  | .bool value => .bool value
  | .int value => keysAll_ofInt _ value
  | .float value => .float value
  | .str text => .str text
  | .seq items => .seq (keysAll_ofYamlItems items)
  | .map entries =>
    keysAll_map.2 fun entry hmem =>
      keysAll_ofYamlEntries entries entry
        ((Entries.ofList_spec (ofYamlEntries entries)).2 entry hmem)
  | .tagged name value => (keysAll_ofYaml value).tagged name

theorem keysAll_ofYamlItems :
    ∀ items : List Yaml.Value, ∀ node ∈ ofYamlItems items, node.KeysAll (· ≠ "")
  | [] => by simp [ofYamlItems]
  | item :: rest => List.forall_mem_cons.2 ⟨keysAll_ofYaml item, keysAll_ofYamlItems rest⟩

theorem keysAll_ofYamlEntries : ∀ entries : List (Yaml.Value × Yaml.Value),
    ∀ entry ∈ ofYamlEntries entries, entry.1 ≠ "" ∧ entry.2.KeysAll (· ≠ "")
  | [] => by simp [ofYamlEntries]
  | (key, value) :: rest => by
    have hrest := keysAll_ofYamlEntries rest
    unfold ofYamlEntries
    split
    · rename_i hkey
      exact List.forall_mem_cons.2 ⟨⟨keyText?_ne_empty key _ hkey, keysAll_ofYaml value⟩, hrest⟩
    · exact hrest

end

end Node

/-- Documents that are read have no empty key. -/
theorem keysAll_of_readDocument {text : String} {document : Entries Node}
    (h : readDocument text = .ok document) : (Node.map document).KeysAll (· ≠ "") := by
  obtain ⟨value, hvalue⟩ := exists_ofYaml_of_readDocument h
  exact hvalue ▸ keysAll_ofYaml value

end SamTemplate
