import SamTemplate.Proofs.FunctionResources
import SamTemplate.Proofs.RelatedRuns
import SamTemplate.Proofs.Shadowing

/-!
# Masked defaults

A value that is given for a parameter goes before the default that the template declares. The
default is still part of the tree that is resolved, in the session in which all else is. But
a single value changes nothing in a session but the notices, and nothing that is done in a
session looks at these. So templates that agree but for the defaults of parameters with given
values (`MaskedApart`) are compiled to the same functions and resources.

* `DeclaredApart.resolve_relates`: sections of parameters that agree but for defaults are resolved
  in sessions that stay related;
* `MaskedApart.resolved`: of templates that agree but for masked defaults, all sections but the
  parameters are resolved to the same;
* `compileDocument_of_maskedApart`: they are compiled to the same.
-/

namespace SamTemplate

open Node Evaluation

/-! ### Templates that agree but for defaults -/

/-- Declarations of a parameter that agree but for the default, which is a single value in
    both. -/
def DefaultsApart (a b : Node) : Prop :=
  ∃ entries entries' : Entries Node, a = .map entries ∧ b = .map entries' ∧
    "Default" ∈ entries.keys ∧
    entries.AgreesBut "Default" (fun value value' => value.IsScalar ∧ value'.IsScalar) entries'

/-- Declarations of parameters that agree but for the defaults of parameters with these
    names. -/
def DeclaredApart (names : List String) (declared declared' : Entries Node) : Prop :=
  List.Forall₂ (fun a b => a.1 = b.1 ∧ (a.2 = b.2 ∨ (a.1 ∈ names ∧ DefaultsApart a.2 b.2)))
    declared declared'

/-- Templates that agree but for the defaults of parameters that are given values. -/
def MaskedApart (overrides : Parameters) (document document' : Entries Node) : Prop :=
  document.AgreesBut "Parameters" (fun a b => a = b ∨ ∃ declared declared' : Entries Node,
    a = .map declared ∧ b = .map declared' ∧
      DeclaredApart overrides.entries.keys declared declared') document'

namespace Evaluation

/-- In sessions that differ in their notices only, the second computation gives what the first
    one gives, up to a relation. -/
def Likens {α β : Type} (S : α → β → Prop) (x : Evaluation α) (y : Evaluation β) : Prop :=
  ∀ s t a s', s.Noted t → x s = some (a, s') →
    ∃ b t', y t = some (b, t') ∧ S a b ∧ s'.Noted t'

end Evaluation

/-! ### Sections of parameters -/

section

variable {R : Session → Session → Prop} {names : List String} {declared declared' : Entries Node}
  {fuel : Nat} {budget : Budget} {a b : Node}

open Resolution

/-- Declarations are resolved to mappings. -/
theorem DefaultsApart.resolve_relates (hR : Matching R) (hB : Session.Blind R)
    (h : DefaultsApart a b) (hs : budget.spent = false) (hf : budget.remaining < fuel) :
    Relates R (OnEntries fun _ _ => True) (resolve fuel budget a) (resolve fuel budget b) := by
  obtain ⟨entries, entries', rfl, rfl, hmem, hagrees⟩ := h
  obtain ⟨fuel, rfl⟩ : ∃ n, fuel = n + 1 := ⟨fuel - 1, by omega⟩
  refine (resolve_agreesBut_relates hR rfl hmem hagrees hs fun _ _ hscalar =>
    resolve_scalar_relates hB hscalar.1 hscalar.2 (Budget.remaining_deeper_lt hs hf)).imp ?_
  rintro _ _ ⟨values, values', rfl, rfl, -⟩
  exact ⟨_, _, rfl, rfl, trivial⟩

/-- A section of parameters is resolved to something, whatever the defaults are. -/
theorem DeclaredApart.resolve_relates (hR : Matching R) (hB : Session.Blind R)
    (h : DeclaredApart names declared declared') (hlevels : 2 ≤ budget.remaining)
    (hf : budget.remaining < fuel) :
    Relates R (fun _ _ => True) (resolve fuel budget (.map declared))
      (resolve fuel budget (.map declared')) := by
  obtain ⟨fuel, rfl⟩ : ∃ n, fuel = n + 1 := ⟨fuel - 1, by omega⟩
  have hs : budget.spent = false := Budget.spent_eq_false_iff.2 (by omega)
  have hs' : budget.deeper.spent = false :=
    Budget.spent_eq_false_iff.2 (Budget.le_remaining_deeper hlevels)
  have hdeclaration {a b : Node} (hab : DefaultsApart a b) :
      Relates R (OnEntries fun _ _ => True)
        (resolve fuel budget.deeper a) (resolve fuel budget.deeper b) :=
    hab.resolve_relates hR hB hs' (Budget.remaining_deeper_lt hs hf)
  by_cases hne : declared = declared'
  · subst hne
    exact (Resolution.resolve_relates hR _ _ _).forget
  have hkeys : declared.keys = declared'.keys := map_eq_of_forall₂ h fun _ _ hpair => hpair.1
  refine (resolve_section_relates (W := fun _ _ => True) hR hB hs hf hkeys ?_
    (Relates.entries (V := fun _ _ _ => True) (h.imp ?_)).forget).forget
  · -- A single declaration that is not the same is one with another default.
    rintro name a b rfl rfl
    rcases h with _ | ⟨⟨-, heq | ⟨-, hab⟩⟩, -⟩
    · obtain rfl : a = b := heq
      exact absurd rfl hne
    · refine ⟨?_, hdeclaration hab⟩
      obtain ⟨entries, entries', ha, hb, -⟩ := hab
      exact ⟨entries, entries', ha, hb, trivial⟩
  · rintro ⟨name, a⟩ ⟨name', b⟩ ⟨hname, hvalue⟩
    refine ⟨hname, ?_⟩
    rcases hvalue with heq | ⟨-, hab⟩
    · obtain rfl : a = b := heq
      exact (Resolution.resolve_relates hR _ _ _).forget
    · exact (hdeclaration hab).forget

/-- Of the parameters that are not given values the same is declared. -/
theorem DeclaredApart.filter_eq (h : DeclaredApart names declared declared') {name : String}
    (hname : name ∉ names) :
    declared.filter (fun a => decide (a.1 = name))
      = declared'.filter fun a => decide (a.1 = name) := by
  induction h with
  | nil => rfl
  | @cons a b declared declared' hpair _ ih =>
    rw [List.filter_cons, List.filter_cons, ← hpair.1, ih]
    split_ifs with hkey
    · have hnot : a.1 ∉ names := of_decide_eq_true hkey ▸ hname
      have hvalue : a.2 = b.2 := hpair.2.resolve_right fun h => hnot h.1
      rw [Prod.ext hpair.1 hvalue]
    · rfl

end

/-- What is bound under a key depends on the pairs with this key. -/
theorem Bindings.get?_insertAll_filter {α : Type} {a b : Bindings α} {key : String}
    (pairs : Entries α) (h : a.get? key = b.get? key) :
    (a.insertAll (pairs.filter fun pair => decide (pair.1 = key))).get? key
      = (b.insertAll pairs).get? key := by
  induction pairs generalizing a b with
  | nil => exact h
  | cons pair rest ih =>
    rw [List.filter_cons]
    split_ifs with hkey
    · refine @ih (a.insert pair.1 pair.2) (b.insert pair.1 pair.2) ?_
      rw [get?_insert, get?_insert, h]
    · refine @ih a (b.insert pair.1 pair.2) ?_
      rw [get?_insert, if_neg (by simpa using hkey), h]

/-- What is bound under a key depends on the entries with this key that the pairs come from. -/
theorem Bindings.get?_ofList_filterMap {α β : Type} {f : String × α → Option (String × β)}
    {key : String} (hf : ∀ a b, f a = some b → b.1 = a.1) (entries : Entries α) :
    (Bindings.ofList (entries.filterMap f)).get? key
      = (Bindings.ofList ((entries.filter fun a => decide (a.1 = key)).filterMap f)).get? key := by
  rw [← filter_filterMap_of_key Prod.fst Prod.fst (fun other => decide (other = key)) hf]
  exact (get?_insertAll_filter _ rfl).symm

/-! ### Templates -/

namespace MaskedApart

variable {overrides : Parameters} {document document' : Entries Node}

/-- Both templates are resolved with the same values of the parameters. -/
theorem parameters_eq (h : MaskedApart overrides document document') :
    (declaredParameters document).insertAll overrides.entries
      = (declaredParameters document').insertAll overrides.entries := by
  refine Bindings.ext_get? fun name => Bindings.get?_insertAll_congr ?_
  by_cases hname : name ∈ overrides.entries.keys
  · exact .inr hname
  refine .inl ?_
  rw [declaredParameters, declaredParameters]
  rcases rel_cases h.rel_get? with
    ⟨hnone, hnone'⟩ | ⟨a, b, hsome, hsome', rfl | ⟨declared, declared', rfl, rfl, hdeclared⟩⟩
  · rw [hnone, hnone']
  · rw [hsome, hsome']
  · rw [hsome, hsome']
    -- Of the section only what is declared under the name matters, which is the same in both.
    have hkey (a : String × Node) (b : String × String)
        (hb : (a.2.field? "Default").map (fun value => (a.1, value.text)) = some b) :
        b.1 = a.1 := by
      obtain ⟨value, -, rfl⟩ := Option.map_eq_some_iff.1 hb
      rfl
    exact (Bindings.get?_ofList_filterMap hkey declared).trans
      ((hdeclared.filter_eq hname) ▸ (Bindings.get?_ofList_filterMap hkey declared').symm)

theorem resolve_likens (h : MaskedApart overrides document document')
    (hmem : "Parameters" ∈ document.keys) {fuel : Nat} (hf : Budget.remaining {} < fuel) :
    Likens (OnEntries fun root root' => root.AgreesBut "Parameters" (fun _ _ => True) root')
      (Resolution.resolve fuel {} (.map document))
      (Resolution.resolve fuel {} (.map document')) := by
  obtain ⟨fuel, rfl⟩ : ∃ n, fuel = n + 1 := ⟨fuel - 1, by omega⟩
  refine (Resolution.resolve_agreesBut_relates (V := fun _ _ => True) matching_noted rfl hmem h rfl
    ?_).imp fun _ _ ⟨_, _, hroot, hroot', hagrees⟩ => ⟨_, _, hroot, hroot', hagrees.2⟩
  rintro a b (rfl | ⟨declared, declared', rfl, rfl, hdeclared⟩)
  · exact (Resolution.resolve_relates matching_noted _ _ _).forget
  · exact hdeclared.resolve_relates matching_noted Session.blind_noted (by decide)
      (Budget.remaining_deeper_lt rfl hf)

/-- All sections but the parameters are resolved to the same. -/
theorem resolved (h : MaskedApart overrides document document')
    (hmem : "Parameters" ∈ document.keys) :
    ∃ root root' : Entries Node, (resolveDocument document overrides).1 = .map root ∧
      (resolveDocument document' overrides).1 = .map root' ∧
      root.AgreesBut "Parameters" (fun _ _ => True) root' := by
  rw [resolveDocument, resolveDocument, ← h.parameters_eq, ← h.get?_eq (by decide)]
  generalize Session.start _ _ = s
  have hfuel : Budget.remaining {} < s.nesting {} := by
    rw [Session.nesting]
    omega
  obtain ⟨value', t', hvalue', ⟨root, root', hr, hr', hagrees⟩, -⟩ :=
    h.resolve_likens hmem hfuel s s _ _ (.refl s) (s.resolveAt_spec {} (.map document))
  have hresult := Option.some.inj ((s.resolveAt_spec {} (.map document')).symm.trans hvalue')
  exact ⟨root, root', hr, (congrArg Prod.fst hresult).trans hr', hagrees⟩

end MaskedApart

/-- Without the key, entries that agree but for what is under it are equal. -/
theorem Entries.AgreesBut.eq_of_notMem {α : Type} {key : String} {R : α → α → Prop}
    {entries entries' : Entries α} (h : entries.AgreesBut key R entries')
    (hmem : key ∉ entries.keys) : entries = entries' := by
  induction h with
  | nil => rfl
  | @cons a b _ _ hpair _ ih =>
    obtain ⟨hne, hrest⟩ := not_or.1 (mt List.mem_cons.2 hmem)
    have hvalue : a.2 = b.2 := by simpa [Ne.symm hne] using hpair.2
    rw [Prod.ext hpair.1 hvalue, ih hrest]

/-- Templates that agree but for masked defaults are compiled to the same functions and
    resources, or there is the same error. -/
theorem compileDocument_of_maskedApart {overrides : Parameters} {document document' : Entries Node}
    (h : MaskedApart overrides document document') :
    (compileDocument document overrides).map
        (fun compilation => (compilation.functions, compilation.resources))
      = (compileDocument document' overrides).map
          fun compilation => (compilation.functions, compilation.resources) := by
  by_cases hmem : "Parameters" ∈ document.keys
  · obtain ⟨root, root', hr, hr', hagrees⟩ := h.resolved hmem
    have hentries : (resolveDocument document overrides).1.entries? = some root := by rw [hr]; rfl
    have hentries' : (resolveDocument document' overrides).1.entries? = some root' := by
      rw [hr']
      rfl
    have hsection : root.get? "Resources" = root'.get? "Resources" := hagrees.get?_eq (by decide)
    have hdefaults : FunctionDefaults.ofTemplate root = .ofTemplate root' := by
      have hglobals : root.get? "Globals" = root'.get? "Globals" := hagrees.get?_eq (by decide)
      rw [FunctionDefaults.ofTemplate, FunctionDefaults.ofTemplate, hglobals]
    cases hresources : (root.get? "Resources").bind entries? with
    | none =>
      rw [compileDocument_of_noResources hentries hresources,
        compileDocument_of_noResources hentries' (hsection ▸ hresources)]
      rfl
    | some resources =>
      -- What is extracted comes of the resources and the globals, whatever was noted before.
      have hextract : extract root resources = extract root' resources := by
        rw [extract, extract, hdefaults]
      obtain ⟨functions, told, hfunctions⟩ :=
        collectFunctions_tells resources (.ofTemplate root) (collectLayers resources)
      obtain ⟨specs, told', hx⟩ := extract_tells hfunctions
      rw [compileDocument_of_resources hentries hresources hx,
        compileDocument_of_resources hentries' (hsection ▸ hresources) (hextract ▸ hx)]
      cases functions <;> rfl
  · rw [h.eq_of_notMem hmem]

/-- A template with a bucket that is named by a parameter with this default. -/
def namedBy (default : Node) : Entries Node :=
  [("Parameters", .map [("Name", .map [("Type", .str "String"), ("Default", default)])]),
    ("Resources", .map [
      ("Files", .map [
        ("Type", .str "AWS::S3::Bucket"),
        ("Properties", .map [("BucketName", .call "Ref" (.str "Name"))])])])]

theorem namedBy_maskedApart {a b : Node} (ha : a.IsScalar) (hb : b.IsScalar) (value : String) :
    MaskedApart (.ofList [("Name", value)]) (namedBy a) (namedBy b) := by
  have hdefaults : DefaultsApart (.map [("Type", .str "String"), ("Default", a)])
      (.map [("Type", .str "String"), ("Default", b)]) :=
    ⟨_, _, rfl, rfl, by simp [Entries.keys], .cons ⟨rfl, rfl⟩ (.cons ⟨rfl, ha, hb⟩ .nil)⟩
  refine .cons ⟨rfl, .inr ⟨_, _, rfl, rfl, .cons ⟨rfl, .inr ⟨?_, hdefaults⟩⟩ .nil⟩⟩
    (.cons ⟨rfl, rfl⟩ .nil)
  exact List.mem_singleton.2 rfl

/-- A value for the parameter. -/
def naming : Parameters := .ofList [("Name", "files")]

/-- Nothing of a default shows, neither of a text with a token nor of no value. -/
theorem compileDocument_namedBy :
    MaskedApart naming (namedBy (.str "$\x7bName\x7d")) (namedBy .null) ∧
      (compileDocument (namedBy (.str "$\x7bName\x7d")) naming).map
          (fun compilation => (compilation.functions, compilation.resources))
        = (compileDocument (namedBy .null) naming).map
          (fun compilation => (compilation.functions, compilation.resources)) ∧
      (compileDocument (namedBy .null) naming).map (·.resources.buckets)
        = .ok [⟨"files", none⟩] := by
  have hscalar : (Node.str "$\x7bName\x7d").IsScalar := trivial
  have hnull : Node.null.IsScalar := trivial
  have hapart : MaskedApart naming _ _ := namedBy_maskedApart hscalar hnull "files"
  exact ⟨hapart, compileDocument_of_maskedApart hapart, rfl⟩

end SamTemplate
