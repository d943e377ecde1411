import SamTemplate.Digest.Fingerprint
import SamTemplate.Proofs.Collecting
import SamTemplate.Proofs.ExtractionOrder
import SamTemplate.Proofs.FunctionResources
import SamTemplate.Proofs.Noted
import SamTemplate.Proofs.ResolutionOrder

/-!
# Documents in another order

The order of the entries of a template says nothing. If a template meets no cycle of
conditions, its resolution is that from scratch, which is the same up to order in any
order of the entries; and the extraction looks up entries by key or in the order of
the keys.

* `Session.resolve_alike`: what two orders of a template are resolved to;
* `compileDocument_of_reordered`, `compile_sameOutcome`: what they, and texts of them, are
  compiled to;
* `wellFormed_of_readDocument`: documents that are read have no key twice.
-/

namespace SamTemplate

open Node Evaluation

/-! ### Documents that are read -/

namespace Entries

variable {α : Type} {key : String} {value : α} {pair : String × α} {entries : Entries α}

/-- Writing an entry repeats no key. -/
theorem Distinct.put (h : Distinct entries) (key : String) (value : α) :
    Distinct (put key value entries) := by
  rw [Distinct, keys_put]
  split
  · exact h
  · rename_i hkey
    exact List.nodup_append.2 ⟨h, by simp, fun a ha b hb heq =>
      hkey (List.mem_singleton.1 hb ▸ heq ▸ ha)⟩

theorem mem_put (h : pair ∈ put key value entries) : pair = (key, value) ∨ pair ∈ entries := by
  induction entries with
  | nil => exact .inl (List.mem_singleton.1 h)
  | cons first rest ih =>
    obtain ⟨k, v⟩ := first
    simp only [put] at h
    split at h
    · exact (List.mem_cons.1 h).imp_right (List.mem_cons_of_mem _)
    · rcases List.mem_cons.1 h with rfl | h
      · exact .inr List.mem_cons_self
      · exact (ih h).imp_right (List.mem_cons_of_mem _)

/-- Pairs that are written one after the other have different keys, and are among those
    written. -/
theorem ofList_spec (pairs : List (String × α)) :
    Distinct (ofList pairs) ∧ ∀ pair ∈ ofList pairs, pair ∈ pairs := by
  suffices h : ∀ entries : Entries α, Distinct entries →
      Distinct (pairs.foldl (fun entries pair => put pair.1 pair.2 entries) entries) ∧
        ∀ pair ∈ pairs.foldl (fun entries pair => put pair.1 pair.2 entries) entries,
          pair ∈ entries ∨ pair ∈ pairs by
    obtain ⟨hd, hmem⟩ := h [] List.nodup_nil
    exact ⟨hd, fun pair hpair => (hmem pair hpair).resolve_left List.not_mem_nil⟩
  induction pairs with
  | nil => exact fun entries hd => ⟨hd, fun _ h => .inl h⟩
  | cons first rest ih =>
    intro entries hd
    obtain ⟨hd', hmem⟩ := ih (put first.1 first.2 entries) (hd.put first.1 first.2)
    refine ⟨hd', fun pair hpair => ?_⟩
    rcases hmem pair hpair with h | h
    · exact (mem_put h).elim (fun heq => .inr (heq ▸ List.mem_cons_self)) .inl
    · exact .inr (List.mem_cons_of_mem _ h)

end Entries

namespace Node

theorem WellFormed.tagged {node : Node} (h : node.WellFormed) (tag : String) :
    (tagged tag node).WellFormed := by
  unfold Node.tagged
  dsimp only
  split
  · exact wellFormed_call.2 h
  · exact h

theorem wellFormed_ofInt (i : Int) : (ofInt i).WellFormed := by
  unfold ofInt
  split <;> simp

mutual

/-- What is read from a value has no mapping with a repeated key, as the last of them is kept. -/
theorem wellFormed_ofYaml : ∀ value : Yaml.Value, (ofYaml value).WellFormed
  | .null => .null
  | .bool value => .bool value
  | .int value => wellFormed_ofInt value
  | .float value => .float value
  | .str text => .str text
  | .seq items => .seq (wellFormed_ofYamlItems items)
  | .map entries =>
    have h := Entries.ofList_spec (ofYamlEntries entries)
    .map h.1 fun entry hmem => wellFormed_ofYamlEntries entries entry (h.2 entry hmem)
  | .tagged name value => (wellFormed_ofYaml value).tagged name

theorem wellFormed_ofYamlItems :
    ∀ items : List Yaml.Value, ∀ node ∈ ofYamlItems items, node.WellFormed
  | [] => by simp [ofYamlItems]
  | item :: rest =>
    List.forall_mem_cons.2 ⟨wellFormed_ofYaml item, wellFormed_ofYamlItems rest⟩

theorem wellFormed_ofYamlEntries : ∀ entries : List (Yaml.Value × Yaml.Value),
    ∀ entry ∈ ofYamlEntries entries, entry.2.WellFormed
  | [] => by simp [ofYamlEntries]
  | (key, value) :: rest => by
    have hrest := wellFormed_ofYamlEntries rest
    unfold ofYamlEntries
    split
    · exact List.forall_mem_cons.2 ⟨wellFormed_ofYaml value, hrest⟩
    · exact hrest

end

end Node

/-- A document that is read is described by a value of its text. -/
theorem exists_ofYaml_of_readDocument {text : String} {document : Entries Node}
    (h : readDocument text = .ok document) : ∃ value, Node.ofYaml value = .map document := by
  unfold readDocument at h
  split at h
  · exact nomatch h
  · split at h
    · exact nomatch h
    · rename_i entries hread
      cases h
      obtain ⟨value, -, hvalue⟩ := Option.map_eq_some_iff.1 hread
      exact ⟨value, hvalue⟩
    · exact nomatch h
    · exact nomatch h

/-- Documents that are read are well-formed. -/
theorem wellFormed_of_readDocument {text : String} {document : Entries Node}
    (h : readDocument text = .ok document) : (Node.map document).WellFormed := by
  obtain ⟨value, hvalue⟩ := exists_ofYaml_of_readDocument h
  exact hvalue ▸ wellFormed_ofYaml value

/-! ### Resolution -/

/-- If a template meets no cycle, another order of it is resolved to the same up to
    order, and the same is noted. -/
theorem Session.resolve_alike {parameters : Parameters} {conditions conditions' : Entries Node}
    {a b : Node} (hconditions : Alike.Shuffled conditions conditions') (h : Alike a b)
    (hcycle : ¬ ((start parameters conditions).resolve a).2.warnings.ReportsCycle) :
    Alike ((start parameters conditions).resolve a).1
        ((start parameters conditions').resolve b).1 ∧
      ∀ m, m ∈ ((start parameters conditions).resolve a).2.warnings.messages
        ↔ m ∈ ((start parameters conditions').resolve b).2.warnings.messages := by
  obtain ⟨fuel, hgives⟩ := gives_of_start parameters conditions (.resolve {} a) hcycle
  have hagree : Agree parameters conditions conditions'
      (fun p q => ∃ x y, p = .resolved x ∧ q = .resolved y ∧ Alike x y)
      ((Query.resolve {} a).scratch fuel) ((Query.resolve {} b).scratch fuel) :=
    ((Scratch.agree hconditions fuel).1 {} a b h).bind fun x y hxy => .pure ⟨x, y, rfl, rfl, hxy⟩
  rcases hagree with hfails | ⟨_, _, noted, ⟨x, y, rfl, rfl, hxy⟩, hx, hy⟩
  · -- From scratch it is resolved as well, since no cycle is met.
    obtain ⟨t, ht, -⟩ := hgives _ (serves_start parameters conditions)
    rw [hfails _ (serves_start parameters conditions)] at ht
    exact nomatch ht
  · obtain ⟨hanswer, hnoted⟩ := perform_of_yields hx
    obtain ⟨hanswer', hnoted'⟩ := perform_of_yields hy
    have ha : ((start parameters conditions).resolve a).1 = x := Answer.resolved.inj hanswer
    have hb : ((start parameters conditions').resolve b).1 = y := Answer.resolved.inj hanswer'
    rw [ha, hb]
    exact ⟨hxy, fun m => (hnoted m).trans (hnoted' m).symm⟩

section

variable {document document' : Entries Node} {overrides : Parameters}

/-- A template in another order is resolved to a tree that is alike, with the same notices. -/
theorem resolveDocument_alike (h : Alike.Shuffled document document')
    (hcycle : ¬ (resolveDocument document overrides).2.warnings.ReportsCycle) :
    Alike (resolveDocument document overrides).1 (resolveDocument document' overrides).1 ∧
      ∀ m, m ∈ (resolveDocument document overrides).2.warnings.messages
        ↔ m ∈ (resolveDocument document' overrides).2.warnings.messages := by
  have hconditions := rel_getD (rel_bind (h.get? "Conditions") fun _ _ h => h.entries?)
    Alike.Shuffled.nil
  unfold resolveDocument at hcycle ⊢
  rw [← h.declaredParameters_eq]
  exact Session.resolve_alike hconditions (Alike.View.map h).alike hcycle

/-! ### Compilation -/

/-- Two outcomes of compiling say the same: the same error, or the same output with the
    same notices in any order. -/
inductive SameOutcome :
    Except CompileError Compilation → Except CompileError Compilation → Prop
  | error (error : CompileError) : SameOutcome (.error error) (.error error)
  | ok {compilation compilation' : Compilation} :
      compilation.functions = compilation'.functions →
      compilation.resources = compilation'.resources →
      (∀ m, m ∈ compilation.warnings ↔ m ∈ compilation'.warnings) →
      SameOutcome (.ok compilation) (.ok compilation')

theorem fingerprints_eq {compilation compilation' : Compilation}
    (hfunctions : compilation.functions = compilation'.functions)
    (hresources : compilation.resources = compilation'.resources) :
    compilation.fingerprints = compilation'.fingerprints := by
  simp only [Compilation.fingerprints, Compilation.fingerprintsBy, hfunctions, hresources]

theorem compileDocument_sameOutcome (h : Alike.Shuffled document document')
    (hcycle : ¬ (resolveDocument document overrides).2.warnings.ReportsCycle) :
    SameOutcome (compileDocument document overrides) (compileDocument document' overrides) := by
  obtain ⟨halike, hnoted⟩ := resolveDocument_alike h hcycle
  rcases rel_cases halike.entries? with ⟨he, he'⟩ | ⟨root, root', he, he', hroot⟩
  · rw [compileDocument_of_notMapping he, compileDocument_of_notMapping he']
    exact .error _
  have hbind := rel_bind (hroot.get? "Resources") fun _ _ h => h.entries?
  rcases rel_cases hbind with ⟨hr, hr'⟩ | ⟨resources, resources', hr, hr', hresources⟩
  · rw [compileDocument_of_noResources he hr, compileDocument_of_noResources he' hr']
    exact .ok rfl rfl hnoted
  -- The same is extracted from both, and the same is told.
  obtain ⟨functions, told, ht⟩ :=
    collectFunctions_tells resources (.ofTemplate root) (collectLayers resources)
  obtain ⟨specs, told', hx⟩ := extract_tells ht
  have hx' := hx
  rw [hroot.extract_eq hresources] at hx'
  rw [compileDocument_of_resources he hr hx, compileDocument_of_resources he' hr' hx']
  cases functions with
  | error error => exact .error _
  | ok functions =>
    refine .ok rfl rfl fun m => ?_
    rw [Warnings.mem_addAll, Warnings.mem_addAll, hnoted]

theorem shuffled_of_reordered (hw : (Node.map document).WellFormed)
    (h : Reordered (.map document) (.map document')) : Alike.Shuffled document document' := by
  cases (Alike.mk hw h).view with
  | map hs => exact hs

/-- Texts of documents that differ in the order of entries only are compiled to the same,
    if the first meets no cycle of conditions. -/
theorem compile_sameOutcome {text text' : String} (h : readDocument text = .ok document)
    (h' : readDocument text' = .ok document') (hr : Reordered (.map document) (.map document'))
    (hcycle : ¬ (resolveDocument document overrides).2.warnings.ReportsCycle) :
    SameOutcome (compile text overrides) (compile text' overrides) := by
  rw [compile, compile, h, h']
  exact compileDocument_sameOutcome
    (shuffled_of_reordered (wellFormed_of_readDocument h) hr) hcycle

/-- If a template meets no cycle of conditions, any order of its entries is compiled to
    the same: the same error, or the same functions and resources, hence the same
    fingerprints, with the same notices. -/
theorem compileDocument_of_reordered (hw : (Node.map document).WellFormed)
    (h : Reordered (.map document) (.map document'))
    (hcycle : ¬ (resolveDocument document overrides).2.warnings.ReportsCycle) :
    (∀ error, compileDocument document overrides = .error error →
      compileDocument document' overrides = .error error) ∧
    ∀ compilation, compileDocument document overrides = .ok compilation →
      ∃ compilation', compileDocument document' overrides = .ok compilation' ∧
        compilation'.functions = compilation.functions ∧
        compilation'.resources = compilation.resources ∧
        (∀ m, m ∈ compilation'.warnings ↔ m ∈ compilation.warnings) ∧
        compilation'.fingerprints = compilation.fingerprints := by
  have hsame := compileDocument_sameOutcome (shuffled_of_reordered hw h) hcycle
  generalize compileDocument document overrides = outcome at hsame ⊢
  generalize compileDocument document' overrides = outcome' at hsame ⊢
  cases hsame with
  | error error => exact ⟨fun _ h => h, fun _ h => (nomatch h)⟩
  | @ok compilation compilation' hfunctions hresources hwarnings =>
    refine ⟨fun _ h => (nomatch h), ?_⟩
    rintro _ ⟨⟩
    exact ⟨compilation', rfl, hfunctions.symm, hresources.symm, fun m => (hwarnings m).symm,
      (fingerprints_eq hfunctions hresources).symm⟩

end

/-- A template with a function whose image depends on a condition, and a bucket. -/
def staged : Entries Node :=
  [("Conditions", .map [("Live", .call "Fn::Equals" (.seq [.call "Ref" (.str "A"), .str "A"]))]),
    ("Resources", .map [
      ("Resize", .map [
        ("Type", .str "AWS::Serverless::Function"),
        ("Properties", .map [
          ("ImageUri", .call "Fn::If" (.seq [.str "Live", .str "resize:1", .str "resize:2"]))])]),
      ("Files", .map [
        ("Type", .str "AWS::S3::Bucket"),
        ("Properties", .map [("BucketName", .call "Fn::Sub" (.str "files-$\x7bAWS::Id\x7d"))])])])]

/-- The same template, with its sections, its resources and their settings the other way
    round. -/
def restaged : Entries Node :=
  [("Resources", .map [
      ("Files", .map [
        ("Properties", .map [("BucketName", .call "Fn::Sub" (.str "files-$\x7bAWS::Id\x7d"))]),
        ("Type", .str "AWS::S3::Bucket")]),
      ("Resize", .map [
        ("Properties", .map [
          ("ImageUri", .call "Fn::If" (.seq [.str "Live", .str "resize:1", .str "resize:2"]))]),
        ("Type", .str "AWS::Serverless::Function")])]),
    ("Conditions", .map [("Live", .call "Fn::Equals" (.seq [.call "Ref" (.str "A"), .str "A"]))])]

theorem staged_wellFormed : (Node.map staged).WellFormed := by
  simp [staged, Entries.Distinct, Entries.keys]

theorem staged_reordered : Reordered (.map staged) (.map restaged) :=
  .swap ⟨rfl, .refl _⟩ ⟨rfl, .swap ⟨rfl, .swap ⟨rfl, .refl _⟩ ⟨rfl, .refl _⟩⟩
    ⟨rfl, .swap ⟨rfl, .refl _⟩ ⟨rfl, .refl _⟩⟩⟩

theorem compileDocument_restaged :
    ∃ compilation, compileDocument restaged .empty = .ok compilation ∧
      compilation.resources.buckets = [⟨"files-local-Id", none⟩] := by
  have h := compileDocument_of_reordered staged_wellFormed staged_reordered
    (show ¬ (resolveDocument staged .empty).2.warnings.ReportsCycle by decide)
  obtain ⟨compilation, hcompile, -, hresources, -⟩ := h.2 _ rfl
  exact ⟨compilation, hcompile, by rw [hresources]; rfl⟩

end SamTemplate
