import SamTemplate.Compile
import SamTemplate.Proofs.BlankTexts
import SamTemplate.Proofs.Keys
import SamTemplate.Proofs.OutputReadBack

/-!
# Short and long spellings

A call can be written in short, as its operand under a tag, or in long, as a mapping with the
function's name as its only key; and a value can be put under any tag that calls nothing.
`Node.Spells` relates a tree to all the values that spell it in these ways, with a choice at
each place. All of them describe that tree (`Node.Spells.ofYaml_eq`), so templates that
differ in such choices only compile to the same.

Which tag stands for which call depends on the kind of operand (`Node.shortTags`), and the
operand is what the value under the tag describes, which may be a call in short itself.
-/

namespace SamTemplate

theorem Entries.put_of_not_mem {α : Type} {key : String} {entries : Entries α}
    (h : key ∉ entries.keys) (value : α) : put key value entries = entries ++ [(key, value)] := by
  induction entries with
  | nil => rfl
  | cons pair rest ih =>
    obtain ⟨hne, hrest⟩ : pair.1 ≠ key ∧ key ∉ keys rest := by
      simpa [keys, eq_comm] using h
    rw [put, if_neg hne, ih hrest, List.cons_append]

/-- Pairs with different keys that are written one after the other are what is there. -/
theorem Entries.ofList_eq_self {α : Type} {pairs : Entries α} (hd : pairs.Distinct) :
    ofList pairs = pairs := by
  suffices h : ∀ done : Entries α, Distinct (done ++ pairs) →
      pairs.foldl (fun entries pair => put pair.1 pair.2 entries) done = done ++ pairs from h [] hd
  clear hd
  induction pairs with
  | nil => exact fun done _ => (List.append_nil done).symm
  | cons pair rest ih =>
    intro done hd
    have hnew : pair.1 ∉ keys done := by
      rw [Distinct, keys, List.map_append, List.nodup_append] at hd
      exact fun hmem => hd.2.2 _ hmem _ List.mem_cons_self rfl
    rw [List.foldl_cons, put_of_not_mem hnew, ih _ (by simpa using hd), List.append_assoc]
    rfl

namespace Node

/-! ### Tags -/

/-- The tags that call a function on an operand of such a kind. -/
def shortTags : Node → List String
  | .seq _ => ["Join", "Sub", "GetAtt", "If", "Equals", "And", "Or", "Not", "Select", "Split"]
  | .map _ => ["Sub"]
  | _ => ["Ref", "Sub", "GetAtt", "ImportValue", "Condition"]

/-- The tags that call a function on an operand of some kind. -/
def supportedTags : List String := shortTags .null ++ shortTags (.seq []) ++ shortTags (.map [])

/-- The function that a tag stands for. -/
def longName (tag : String) : String :=
  if tag = "Ref" ∨ tag = "Condition" then tag else "Fn::" ++ tag

/-- A tag without the exclamation marks in front of it. -/
def bareTag (tag : String) : String := String.ofList (tag.toList.dropWhile (· = '!'))

/-- A tag is short for the call of a function on an operand. -/
structure ShortFor (tag function : String) (operand : Node) : Prop where
  mem_shortTags : bareTag tag ∈ operand.shortTags
  function_eq : function = longName (bareTag tag)

/-- The function that a tag without exclamation marks calls on an operand. -/
def function? (name : String) : Node → Option String
  | .seq _ => sequenceCall? name
  | .map _ => mappingCall? name
  | _ => scalarCall? name

variable {name tag : String} {node : Node}

/-- A value under a tag is the operand of the function that the tag calls, if it calls one. -/
theorem tagged_eq (tag : String) (node : Node) :
    tagged tag node = ((node.function? (bareTag tag)).map (call · node)).getD node := by
  unfold tagged
  cases node <;> dsimp only [function?, bareTag] <;> split <;>
    simp only [*, Option.map, Option.getD]

theorem function?_of_mem_shortTags (h : name ∈ node.shortTags) :
    node.function? name = some (longName name) := by
  have hscalar : ∀ name ∈ shortTags .null, scalarCall? name = some (longName name) := by decide
  have hsequence : ∀ name ∈ shortTags (.seq []), sequenceCall? name = some (longName name) := by
    decide
  have hmapping : ∀ name ∈ shortTags (.map []), mappingCall? name = some (longName name) := by
    decide
  cases node with
  | seq items => exact hsequence name h
  | map entries => exact hmapping name h
  | _ => exact hscalar name h

theorem function?_of_not_mem_shortTags (h : name ∉ node.shortTags) :
    node.function? name = none := by
  have hscalar (h : name ∉ shortTags .null) : scalarCall? name = none := by
    unfold scalarCall?
    split <;> first | rfl | exact absurd (by decide) h
  have hsequence (h : name ∉ shortTags (.seq [])) : sequenceCall? name = none := by
    unfold sequenceCall?
    split <;> first | rfl | exact absurd (by decide) h
  have hmapping (h : name ∉ shortTags (.map [])) : mappingCall? name = none := by
    unfold mappingCall?
    split <;> first | rfl | exact absurd (by decide) h
  cases node with
  | seq items => exact hsequence h
  | map entries => exact hmapping h
  | _ => exact hscalar h

/-- A tag that is short for a call on some operand is supported. -/
theorem mem_supportedTags_of_mem_shortTags (h : name ∈ node.shortTags) : name ∈ supportedTags := by
  simp only [supportedTags, List.mem_append]
  cases node with
  | seq items => exact .inl (.inr h)
  | map entries => exact .inr h
  | _ => exact .inl (.inl h)

theorem function?_of_not_mem_supportedTags (h : name ∉ supportedTags) :
    node.function? name = none :=
  function?_of_not_mem_shortTags fun hmem => h (mem_supportedTags_of_mem_shortTags hmem)

/-! ### Spellings -/

/-- The values that spell a key: its text, under any tags. -/
inductive SpellsKey (key : String) : Yaml.Value → Prop
  | plain : SpellsKey key (.str key)
  | tagged (tag : String) {value : Yaml.Value} : SpellsKey key value →
      SpellsKey key (.tagged tag value)

/-- The values that spell a tree. -/
inductive Spells : Node → Yaml.Value → Prop
  | null : Spells .null .null
  | bool (value : Bool) : Spells (.bool value) (.bool value)
  | int (value : Int64) : Spells (.int value) (.int value.toInt)
  | float (value : Binary64) : Spells (.float value) (.float value)
  | str (text : String) : Spells (.str text) (.str text)
  | seq {items : List Node} {values : List Yaml.Value} : items.length = values.length →
      (∀ pair ∈ items.zip values, Spells pair.1 pair.2) → Spells (.seq items) (.seq values)
  /-- A mapping, a call in long among them. -/
  | map {entries : Entries Node} {values : List (Yaml.Value × Yaml.Value)} :
      entries.length = values.length →
      (∀ pair ∈ entries.zip values, SpellsKey pair.1.1 pair.2.1) →
      (∀ pair ∈ entries.zip values, Spells pair.1.2 pair.2.2) → Spells (.map entries) (.map values)
  /-- A call in short, as its operand under a tag. -/
  | short {operand : Node} {value : Yaml.Value} {tag function : String} : Spells operand value →
      ShortFor tag function operand → Spells (call function operand) (.tagged tag value)
  /-- Anything under a tag that calls nothing. -/
  | wrapped {node : Node} {value : Yaml.Value} {tag : String} : Spells node value →
      bareTag tag ∉ supportedTags → Spells node (.tagged tag value)

/-- A call in long, as a mapping. -/
theorem Spells.long {operand : Node} {value : Yaml.Value} (h : operand.Spells value) :
    (call name operand).Spells (.map [(.str name, value)]) :=
  .map rfl (List.forall_mem_singleton.2 .plain) (List.forall_mem_singleton.2 h)

theorem SpellsKey.keyText?_eq {key : String} {value : Yaml.Value} (h : SpellsKey key value)
    (hne : key ≠ "") : keyText? value = some key := by
  induction h with
  | plain => exact if_neg hne
  | tagged tag _ ih => exact ih

/-- Values that each describe an item. -/
theorem ofYamlItems_eq_zip {items : List Node} {values : List Yaml.Value}
    (hlength : items.length = values.length)
    (h : ∀ pair ∈ items.zip values, ofYaml pair.2 = pair.1) : ofYamlItems values = items := by
  induction values generalizing items with
  | nil => exact (List.length_eq_zero_iff.1 hlength).symm
  | cons value values ih => cases items with
    | nil => exact nomatch hlength
    | cons item items =>
      obtain ⟨hfirst, hrest⟩ := List.forall_mem_cons.1 h
      rw [ofYamlItems, hfirst, ih (Nat.succ.inj hlength) hrest]

/-- Keys and values that each describe an entry. -/
theorem ofYamlEntries_eq_zip {entries : Entries Node} {values : List (Yaml.Value × Yaml.Value)}
    (hlength : entries.length = values.length)
    (hkeys : ∀ pair ∈ entries.zip values, keyText? pair.2.1 = some pair.1.1)
    (h : ∀ pair ∈ entries.zip values, ofYaml pair.2.2 = pair.1.2) :
    ofYamlEntries values = entries := by
  induction values generalizing entries with
  | nil => exact (List.length_eq_zero_iff.1 hlength).symm
  | cons value values ih => cases entries with
    | nil => exact nomatch hlength
    | cons entry entries =>
      obtain ⟨hkey, hkeys⟩ := List.forall_mem_cons.1 hkeys
      obtain ⟨hfirst, hrest⟩ := List.forall_mem_cons.1 h
      simp only [ofYamlEntries, hkey, hfirst, ih (Nat.succ.inj hlength) hkeys hrest]

/-- A value that spells a tree describes that tree. -/
theorem Spells.ofYaml_eq {node : Node} {value : Yaml.Value} (h : node.Spells value)
    (hw : node.WellFormed) (hk : node.KeysAll (· ≠ "")) : ofYaml value = node := by
  induction h with
  | null => rfl
  | bool value => rfl
  | int value => rw [ofYaml, ofInt, Reader.int64OfInt?_toInt]
  | float value => rfl
  | str text => rfl
  | @seq items values hlength _ ih =>
    rw [wellFormed_seq] at hw
    rw [keysAll_seq] at hk
    rw [ofYaml, ofYamlItems_eq_zip hlength fun pair hmem =>
      ih pair hmem (hw _ (List.of_mem_zip hmem).1) (hk _ (List.of_mem_zip hmem).1)]
  | @map entries values hlength hkeys _ ih =>
    -- No key comes twice, so that no entry is replaced by a later one.
    obtain ⟨hd, hw⟩ := wellFormed_map.1 hw
    rw [keysAll_map] at hk
    rw [ofYaml, ofYamlEntries_eq_zip hlength (fun pair hmem =>
      (hkeys pair hmem).keyText?_eq (hk _ (List.of_mem_zip hmem).1).1) fun pair hmem =>
        ih pair hmem (hw _ (List.of_mem_zip hmem).1) (hk _ (List.of_mem_zip hmem).1).2,
      Entries.ofList_eq_self hd]
  | @short operand value tag function _ htag ih =>
    rw [ofYaml, ih (wellFormed_call.1 hw) (keysAll_call.1 hk).2, tagged_eq,
      function?_of_mem_shortTags htag.mem_shortTags, htag.function_eq]
    rfl
  | @wrapped node value tag _ htag ih =>
    rw [ofYaml, ih hw hk, tagged_eq, function?_of_not_mem_supportedTags htag]
    rfl

/-! ### Templates -/

/-- The texts that say a tree in some spelling. -/
def SpelledBy (node : Node) (text : String) : Prop :=
  ∃ value, Yaml.Value.ofText? text = some value ∧ node.Spells value

/-- The entries of a tree, as those of a document that it is the tree of. -/
def document : Node → Except DocumentError (Entries Node)
  | .map entries => .ok entries
  | .null => .error .empty
  | node => .error (.notMapping node.kindName)

end Node

/-- A document is read as its tree, unless it is blank and the tree says something. -/
theorem readDocument_eq_document {text : String} {node : Node} (h : readNode? text = some node)
    (hblank : trim text = "" → node = .null) : readDocument text = node.document := by
  rw [readDocument, h]
  split
  · rw [hblank ‹_›]
    rfl
  · cases node <;> rfl

/-- All spellings of a tree describe that tree, at every choice of calls in short and of tags
    that call nothing. So texts that spell one tree compile to the same, whatever they are
    compiled with. A text of blanks is refused before it is read, which makes a difference
    only where the tree is a text of blanks itself. -/
theorem spellings_agree {node : Node} (hw : node.WellFormed) (hk : node.KeysAll (· ≠ "")) :
    (∀ value, node.Spells value → Node.ofYaml value = node) ∧
    ∀ text text' overrides, node.SpelledBy text → node.SpelledBy text' →
      (∀ blank, node = .str blank → trim blank = "" → (trim text = "" ↔ trim text' = "")) →
      compile text overrides = compile text' overrides := by
  have hdescribes (value : Yaml.Value) (h : node.Spells value) : Node.ofYaml value = node :=
    h.ofYaml_eq hw hk
  refine ⟨hdescribes, fun text text' overrides => ?_⟩
  rintro ⟨value, hvalue, hspells⟩ ⟨value', hvalue', hspells'⟩ hblank
  have hread : readNode? text = some node := by
    rw [readNode?, hvalue, Option.map_some, hdescribes value hspells]
  have hread' : readNode? text' = some node := by
    rw [readNode?, hvalue', Option.map_some, hdescribes value' hspells']
  suffices h : readDocument text = readDocument text' by rw [compile, compile, h]
  by_cases hnode : ∃ blank, node = .str blank ∧ trim blank = ""
  · obtain ⟨blank, hstr, htrim⟩ := hnode
    rw [readDocument, readDocument, hread, hread']
    exact if_congr (hblank blank hstr htrim) rfl rfl
  · -- Of other trees only `null` is said by a text of blanks.
    have hnull {text : String} {value : Yaml.Value} (hv : Yaml.Value.ofText? text = some value)
        (hs : node.Spells value) (hempty : trim text = "") : node = .null := by
      have hsaid := Node.ofYaml_of_blank hempty hv
      rw [hdescribes value hs] at hsaid
      exact hsaid.resolve_right hnode
    rw [readDocument_eq_document hread (hnull hvalue hspells),
      readDocument_eq_document hread' (hnull hvalue' hspells')]

/-- A template with a call in a call. -/
def joined : Node :=
  .map [("A", .call "Fn::Join" (.seq [.str "x", .seq [.call "Ref" (.str "B")]]))]

/-- The template with both calls in short. -/
def joinedInShort : String := "A: !Join [x, [!Ref B]]"

/-- The template with both calls in long, and with tags that call nothing. -/
def joinedInLong : String := "A: !Note \x7bFn::Join: [x, [\x7bRef: !Own B\x7d]]\x7d"

theorem ofText?_joinedInShort : Yaml.Value.ofText? joinedInShort
    = some (.map [(.str "A", .tagged "Join"
        (.seq [.str "x", .seq [.tagged "Ref" (.str "B")]]))]) := by
  have htokens : Yaml.Token.ofText? joinedInShort =
      some [.openBlock .mapping, .key, .scalar true "A", .value,
        .tag [33] [74, 111, 105, 110], .openFlow .sequence, .scalar true "x", .comma,
        .openFlow .sequence, .tag [33] [82, 101, 102], .scalar true "B", .closeFlow .sequence,
        .closeFlow .sequence, .closeBlock] := by decide +kernel
  rw [Yaml.Value.ofText?, htokens]
  rfl

theorem ofText?_joinedInLong : Yaml.Value.ofText? joinedInLong
    = some (.map [(.str "A", .tagged "Note" (.map [(.str "Fn::Join",
        .seq [.str "x", .seq [.map [(.str "Ref", .tagged "Own" (.str "B"))]]])]))]) := by
  have htokens : Yaml.Token.ofText? joinedInLong =
      some [.openBlock .mapping, .key, .scalar true "A", .value,
        .tag [33] [78, 111, 116, 101], .openFlow .mapping, .key, .scalar true "Fn::Join", .value,
        .openFlow .sequence, .scalar true "x", .comma, .openFlow .sequence, .openFlow .mapping,
        .key, .scalar true "Ref", .value, .tag [33] [79, 119, 110], .scalar true "B",
        .closeFlow .mapping, .closeFlow .sequence, .closeFlow .sequence, .closeFlow .mapping,
        .closeBlock] := by decide +kernel
  rw [Yaml.Value.ofText?, htokens]
  rfl

theorem joined_spelledBy_joinedInShort : joined.SpelledBy joinedInShort := by
  have href : (Node.call "Ref" (.str "B")).Spells (.tagged "Ref" (.str "B")) :=
    .short (.str "B") ⟨by decide, by decide⟩
  have hjoin : (Node.call "Fn::Join" (.seq [.str "x", .seq [.call "Ref" (.str "B")]])).Spells
      (.tagged "Join" (.seq [.str "x", .seq [.tagged "Ref" (.str "B")]])) := by
    refine .short (.seq rfl ?_) ⟨by decide, by decide⟩
    exact List.forall_mem_cons.2 ⟨.str "x", List.forall_mem_singleton.2
      (.seq rfl (List.forall_mem_singleton.2 href))⟩
  exact ⟨_, ofText?_joinedInShort, .map rfl (List.forall_mem_singleton.2 .plain)
    (List.forall_mem_singleton.2 hjoin)⟩

theorem joined_spelledBy_joinedInLong : joined.SpelledBy joinedInLong := by
  have href : (Node.call "Ref" (.str "B")).Spells
      (.map [(.str "Ref", .tagged "Own" (.str "B"))]) := .long (.wrapped (.str "B") (by decide))
  have hjoin : (Node.call "Fn::Join" (.seq [.str "x", .seq [.call "Ref" (.str "B")]])).Spells
      (.tagged "Note" (.map [(.str "Fn::Join",
        .seq [.str "x", .seq [.map [(.str "Ref", .tagged "Own" (.str "B"))]]])])) := by
    refine .wrapped (.long (.seq rfl ?_)) (by decide)
    exact List.forall_mem_cons.2 ⟨.str "x", List.forall_mem_singleton.2
      (.seq rfl (List.forall_mem_singleton.2 href))⟩
  exact ⟨_, ofText?_joinedInLong, .map rfl (List.forall_mem_singleton.2 .plain)
    (List.forall_mem_singleton.2 hjoin)⟩

theorem spellings_agree_joined :
    joined.WellFormed ∧ joined.KeysAll (· ≠ "") ∧ joined.SpelledBy joinedInShort ∧
      joined.SpelledBy joinedInLong ∧
      (∃ value, Yaml.Value.ofText? joinedInLong = some value ∧ Node.ofYaml value = joined) ∧
      compile joinedInShort .empty = compile joinedInLong .empty := by
  have hw : joined.WellFormed := by simp [joined, Entries.Distinct, Entries.keys]
  have hk : joined.KeysAll (· ≠ "") := by simp [joined, Node.KeysAll.str]
  have hshort := joined_spelledBy_joinedInShort
  have hlong := joined_spelledBy_joinedInLong
  obtain ⟨value, hvalue, hspells⟩ := id hlong
  exact ⟨hw, hk, hshort, hlong, ⟨value, hvalue, (spellings_agree hw hk).1 value hspells⟩,
    (spellings_agree hw hk).2 _ _ .empty hshort hlong (by rintro _ ⟨⟩)⟩

/-- Two spellings of one text of blanks. The one without a tag is a document of blanks and counts
    as empty. The other is a document of the wrong kind. -/
theorem spellings_differ_blank :
    (Node.str "\u00a0").WellFormed ∧ (Node.str "\u00a0").KeysAll (· ≠ "") ∧
      (Node.str "\u00a0").SpelledBy "\u00a0" ∧ (Node.str "\u00a0").SpelledBy "!Own \u00a0" ∧
      compile "\u00a0" .empty = .error (.document .empty) ∧
      compile "!Own \u00a0" .empty = .error (.document (.notMapping "string")) ∧
      compile "\u00a0" .empty ≠ compile "!Own \u00a0" .empty := by
  have hplain : Yaml.Value.ofText? "\u00a0" = some (.str "\u00a0") := rfl
  have htagged : Yaml.Value.ofText? "!Own \u00a0" = some (.tagged "Own" (.str "\u00a0")) := by
    have htokens : Yaml.Token.ofText? "!Own \u00a0"
        = some [.tag [33] [79, 119, 110], .scalar true "\u00a0"] := by decide +kernel
    rw [Yaml.Value.ofText?, htokens]
    rfl
  have hempty : compile "\u00a0" .empty = .error (.document .empty) := by
    rw [compile, readDocument, if_pos (by decide)]
  have hkind : compile "!Own \u00a0" .empty = .error (.document (.notMapping "string")) := by
    rw [compile, readDocument, if_neg (by decide), readNode?, htagged]
    rfl
  refine ⟨by simp, .str _, ⟨_, hplain, .str _⟩, ⟨_, htagged, .wrapped (.str _) (by decide)⟩,
    hempty, hkind, ?_⟩
  rw [hempty, hkind]
  rintro ⟨⟩

end SamTemplate
