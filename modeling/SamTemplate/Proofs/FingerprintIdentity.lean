import SamTemplate.Digest.Fingerprint
import SamTemplate.Proofs.Collected
import SamTemplate.Proofs.EmittedFunctions
import SamTemplate.Proofs.JsonText
import SamTemplate.Proofs.OutputReadBack

/-!
# What fingerprints identify

A digest that tells texts apart tells apart all that is fingerprinted: the JSON text of a
function or of resources tells what it is of, and texts that are each ended by a zero byte
tell where each of them ends.

* `eq_of_terminated_eq`: lists of texts without zero bytes are told apart when put together;
* `Compilation.result_fingerprintsBy_eq_iff`: the digest of a result identifies its functions
  and resources;
* `Compilation.entries_functions_fingerprintsBy_perm`: every function of a compilation has
  its own entry.

No digest of fixed length tells all texts apart, so the digest of bytes is left open here.
Of the one in use it holds that its text has no zero byte (`Blake3.isAlphanum_of_mem_hex`).
-/

namespace SamTemplate

/-! ### Output has no floating point numbers -/

namespace Json

attribute [simp] FloatFree.null FloatFree.bool FloatFree.int FloatFree.str

@[simp]
theorem floatFree_arr {elements : List Json} :
    (arr elements).FloatFree ↔ ∀ element ∈ elements, element.FloatFree :=
  ⟨fun | .arr h => h, .arr⟩

@[simp]
theorem floatFree_obj {members : List (String × Json)} :
    (obj members).FloatFree ↔ ∀ member ∈ members, member.2.FloatFree :=
  ⟨fun | .obj h => h, .obj⟩

@[simp]
theorem floatFree_ofInt64 (i : Int64) : (ofInt64 i).FloatFree := .int _

@[simp]
theorem floatFree_ofTexts (texts : List String) : (ofTexts texts).FloatFree := by simp [ofTexts]

@[simp]
theorem floatFree_ofBindings (bindings : Bindings String) :
    (ofBindings .str bindings).FloatFree := by
  simp only [ofBindings, floatFree_obj, List.forall_mem_map]
  exact fun pair _ => .str pair.2

@[simp]
theorem mem_optional {α : Type} {name : String} {f : α → Json} {value : Option α}
    {member : String × Json} :
    member ∈ optional name f value ↔ ∃ a, value = some a ∧ (name, f a) = member := by
  cases value <;> simp [optional, eq_comm]

end Json

@[simp]
theorem LayerSpec.floatFree_toJson (layer : LayerSpec) : layer.toJson.FloatFree := by
  simp [toJson]

@[simp]
theorem Throughput.floatFree_toJson (throughput : Throughput) : throughput.toJson.FloatFree := by
  simp [toJson]

/-- The numbers of an index are its capacities, which are whole. -/
@[simp]
theorem SecondaryIndex.floatFree_toJson (index : SecondaryIndex) : index.toJson.FloatFree := by
  have hprojection (projection : Projection) : projection.toJson.FloatFree := by
    unfold Projection.toJson
    split <;> simp [or_imp, forall_and]
  simp [toJson, KeyElement.toJson, hprojection, or_imp, forall_and]

theorem ResourceSpecs.floatFree_toJson (specs : ResourceSpecs) : specs.toJson.FloatFree := by
  have htable (table : TableSpec) : table.toJson.FloatFree := by
    simp [TableSpec.toJson, KeyElement.toJson, AttributeDefinition.toJson, or_imp, forall_and]
  have hbucket (bucket : BucketSpec) : bucket.toJson.FloatFree := by
    simp [BucketSpec.toJson, Lifecycle.toJson, LifecycleRule.toJson, or_imp, forall_and]
  simp [toJson, htable, hbucket]

/-- The numbers of a function are its time, its memory and its scaling, which are whole. -/
theorem FunctionSpec.floatFree_toJson (function : FunctionSpec) : function.toJson.FloatFree := by
  have hpackaging (packaging : Packaging) : packaging.toJson.FloatFree := by
    cases packaging <;> simp [Packaging.toJson, CodePackage.members, ImagePackage.members]
  have hevent (event : Event) : event.toJson.FloatFree := by
    cases event <;> simp [Event.toJson, or_imp, forall_and]
  simp [toJson, Scaling.toJson, RuntimeManagement.toJson, hpackaging, hevent, or_imp, forall_and]

/-! ### Texts put together -/

/-- Each text is followed by a zero character. -/
theorem toList_terminated (parts : List String) :
    (terminated parts).toList = parts.flatMap fun part => part.toList ++ ['\x00'] := by
  rw [terminated, String.toList_join, List.flatMap_map]
  exact congrArg (parts.flatMap ·) (funext fun part => String.toList_append)

/-- Texts without zero bytes that are put together are told apart, also from more of them. -/
theorem eq_of_terminated_eq {parts parts' : List String}
    (h : ∀ part ∈ parts, '\x00' ∉ part.toList) (h' : ∀ part ∈ parts', '\x00' ∉ part.toList)
    (heq : terminated parts = terminated parts') : parts = parts' := by
  replace heq := congrArg String.toList heq
  rw [toList_terminated, toList_terminated] at heq
  induction parts generalizing parts' with
  | nil =>
    rcases parts' with _ | ⟨part', parts'⟩
    · rfl
    · simp at heq
  | cons part parts ih =>
    rcases parts' with _ | ⟨part', parts'⟩
    · simp at heq
    · obtain ⟨hpart, hparts⟩ := List.forall_mem_cons.1 h
      obtain ⟨hpart', hparts'⟩ := List.forall_mem_cons.1 h'
      rw [List.flatMap_cons, List.flatMap_cons, List.append_assoc, List.append_assoc] at heq
      have hall {text : String} (hzero : '\x00' ∉ text.toList) :
          ∀ c ∈ text.toList, (c != '\x00') = true := fun c hc =>
        bne_iff_ne.2 fun hc' => hzero (hc' ▸ hc)
      -- Either first text goes up to the first zero byte.
      obtain ⟨htext, hrest⟩ := Json.eq_of_append_of_all (hall hpart) (hall hpart')
        (by simp) (by simp) heq
      rw [String.toList_inj.1 htext, ih hparts hparts' (List.cons.inj hrest).2]

/-! ### A digest that tells texts apart -/

/-- Functions with the same JSON text are the same: the text tells the JSON, as there are no
    floating point numbers in it, and the JSON tells the function. -/
theorem FunctionSpec.compact_injective :
    Function.Injective fun function : FunctionSpec => function.toJson.compact := fun f g h =>
  toJson_injective (Json.compact_injective f.floatFree_toJson g.floatFree_toJson h)

theorem ResourceSpecs.compact_injective :
    Function.Injective fun specs : ResourceSpecs => specs.toJson.compact := fun a b h =>
  toJson_injective (Json.compact_injective a.floatFree_toJson b.floatFree_toJson h)

section

variable {digest : String → String} {compilation compilation' : Compilation}

/-- A digest that tells texts apart tells functions apart. -/
theorem FunctionSpec.fingerprint_injective (hd : Function.Injective digest) :
    Function.Injective (FunctionSpec.fingerprint digest) :=
  hd.comp compact_injective

theorem ResourceSpecs.fingerprint_injective (hd : Function.Injective digest) :
    Function.Injective (ResourceSpecs.fingerprint digest) :=
  hd.comp compact_injective

/-- The result is digested from the fingerprints of its functions and then of its resources. -/
theorem Compilation.result_fingerprintsBy (digest : String → String) (compilation : Compilation) :
    (compilation.fingerprintsBy digest).result
      = digest (terminated (compilation.functions.map (·.fingerprint digest)
          ++ [compilation.resources.fingerprint digest])) := by
  rw [fingerprintsBy, List.map_map]
  rfl

/-- The digest of a result identifies its functions, in their order, and its resources. -/
theorem Compilation.result_fingerprintsBy_eq_iff (hd : Function.Injective digest)
    (hzero : ∀ text, '\x00' ∉ (digest text).toList) :
    (compilation.fingerprintsBy digest).result = (compilation'.fingerprintsBy digest).result
      ↔ compilation.functions = compilation'.functions ∧
        compilation.resources = compilation'.resources := by
  have hparts (compilation : Compilation) :
      ∀ part ∈ compilation.functions.map (·.fingerprint digest)
        ++ [compilation.resources.fingerprint digest], '\x00' ∉ part.toList := by
    intro part hmem
    rcases List.mem_append.1 hmem with hmem | hmem
    · obtain ⟨function, -, rfl⟩ := List.mem_map.1 hmem
      exact hzero _
    · obtain rfl := List.mem_singleton.1 hmem
      exact hzero _
  rw [result_fingerprintsBy, result_fingerprintsBy]
  constructor
  · intro h
    -- The last of the texts is of the resources, and all before are of functions.
    obtain ⟨hfunctions, hresources⟩ :=
      List.append_inj' (eq_of_terminated_eq (hparts _) (hparts _) (hd h)) rfl
    exact ⟨(FunctionSpec.fingerprint_injective hd).list_map hfunctions,
      ResourceSpecs.fingerprint_injective hd (List.singleton_inj.1 hresources)⟩
  · rintro ⟨hfunctions, hresources⟩
    rw [hfunctions, hresources]

/-- Every function has its own entry, as functions have different logical ids. -/
theorem Compilation.entries_functions_fingerprintsBy_perm (digest : String → String)
    (h : (compilation.functions.map (·.logicalId)).Nodup) :
    (compilation.fingerprintsBy digest).functions.entries.Perm
      (compilation.functions.map fun function =>
        (function.logicalId, function.fingerprint digest)) :=
  Bindings.entries_ofList_perm (FunctionSpec.distinct_map_logicalId h _)

end

/-! ### The digest of bytes -/

/-- The digest of a text, by a digest of bytes. -/
def digestTextBy (hash : ByteArray → String) (text : String) : String :=
  "blake3:" ++ hash text.toUTF8

/-- The digest in use is one by a digest of bytes. -/
theorem digestTextBy_hex : digestTextBy Blake3.hex = digestText := rfl

/-- A digest in base sixteen is of letters and digits. -/
theorem Blake3.isAlphanum_of_mem_hex {bytes : ByteArray} {c : Char}
    (h : c ∈ (hex bytes).toList) : c.isAlphanum = true := by
  -- Each byte is written as two digits.
  have hdigit : ∀ n < 16, n.digitChar.isAlphanum = true := by decide
  rw [hex] at h
  split at h
  · rw [String.toList_ofList, List.mem_flatMap] at h
    obtain ⟨word, -, hc⟩ := h
    obtain ⟨shift, -, hc⟩ := List.mem_flatMap.1 hc
    have hbyte : (word >>> shift).toNat % 256 < 256 := Nat.mod_lt _ (by decide)
    rcases List.mem_cons.1 hc with rfl | hc
    · exact hdigit _ (by omega)
    · obtain rfl := List.mem_singleton.1 hc
      exact hdigit _ (by omega)
  · exact nomatch h

section

variable {hash : ByteArray → String}

/-- Texts are told apart as their bytes are. -/
theorem digestTextBy_injective (hinjective : Function.Injective hash) :
    Function.Injective (digestTextBy hash) := fun _ _ h =>
  String.toByteArray_inj.1 (hinjective ((String.append_right_inj _).1 h))

theorem zero_notMem_digestTextBy (hzero : ∀ bytes, '\x00' ∉ (hash bytes).toList) (text : String) :
    '\x00' ∉ (digestTextBy hash text).toList := by
  rw [digestTextBy, String.toList_append, List.mem_append, not_or]
  exact ⟨by decide, hzero _⟩

/-- By a digest of bytes that tells them apart and has no zero bytes in its texts, the
    fingerprints of a compilation identify its functions and its resources, and those of its
    functions are found by their logical ids. -/
theorem fingerprints_identify (hinjective : Function.Injective hash)
    (hzero : ∀ bytes, '\x00' ∉ (hash bytes).toList) :
    (∀ a b : Compilation, ((a.fingerprintsBy (digestTextBy hash)).result
        = (b.fingerprintsBy (digestTextBy hash)).result
          ↔ a.functions = b.functions ∧ a.resources = b.resources) ∧
      ((a.fingerprintsBy (digestTextBy hash)).resources
        = (b.fingerprintsBy (digestTextBy hash)).resources ↔ a.resources = b.resources)) ∧
    (∀ f g : FunctionSpec, f.fingerprint (digestTextBy hash) = g.fingerprint (digestTextBy hash)
      ↔ f = g) ∧
    ∀ text overrides compilation, compile text overrides = .ok compilation →
      (compilation.fingerprintsBy (digestTextBy hash)).functions.entries.Perm
        (compilation.functions.map fun function =>
          (function.logicalId, function.fingerprint (digestTextBy hash))) := by
  have hd := digestTextBy_injective hinjective
  refine ⟨fun _ _ => ⟨?_, ?_⟩, fun _ _ => ?_, ?_⟩
  · exact Compilation.result_fingerprintsBy_eq_iff hd (zero_notMem_digestTextBy hzero)
  · exact (ResourceSpecs.fingerprint_injective hd).eq_iff
  · exact (FunctionSpec.fingerprint_injective hd).eq_iff
  · intro text overrides compilation h
    obtain ⟨document, -, hcollected⟩ := exists_collectedFrom_of_compile h
    exact Compilation.entries_functions_fingerprintsBy_perm _ hcollected.nodup_logicalIds

end

/-! ### A digest that is the one in use where it has to be -/

/-- The texts that are digested for the fingerprints of a compilation. -/
def Compilation.digested (digest : String → String) (compilation : Compilation) : List String :=
  let parts :=
    compilation.functions.map (·.toJson.compact) ++ [compilation.resources.toJson.compact]
  parts ++ [terminated (parts.map digest)]

/-- The fingerprints of a compilation depend on the digests of its own texts only. -/
theorem Compilation.fingerprintsBy_congr {digest digest' : String → String}
    {compilation : Compilation}
    (h : ∀ text ∈ compilation.digested digest', digest text = digest' text) :
    compilation.fingerprintsBy digest = compilation.fingerprintsBy digest' := by
  obtain ⟨hparts, hresult⟩ := List.forall_mem_append.1 h
  obtain ⟨hfunctions, hresources⟩ := List.forall_mem_append.1 hparts
  have hpairs : (compilation.functions.map fun function =>
        (function.logicalId, function.fingerprint digest))
      = compilation.functions.map fun function =>
        (function.logicalId, function.fingerprint digest') :=
    List.map_congr_left fun function hmem =>
      congrArg (function.logicalId, ·) (hfunctions _ (List.mem_map_of_mem hmem))
  have hspecs : compilation.resources.fingerprint digest
      = compilation.resources.fingerprint digest' := hresources _ List.mem_cons_self
  replace hresult := hresult _ List.mem_cons_self
  rw [List.map_append, List.map_map] at hresult
  rw [fingerprintsBy, fingerprintsBy, hpairs, hspecs, List.map_map]
  exact congrArg (Fingerprints.mk · _ _) hresult

/-- Bytes spelled out, each as the character after its number. -/
def spelled (bytes : ByteArray) : String :=
  String.ofList ('#' :: bytes.data.toList.map fun byte => Char.ofNat (byte.toNat + 1))

/-- The digest in use of the bytes of some texts, and any others spelled out. -/
def hexOrSpelled (known : List String) (bytes : ByteArray) : String :=
  if bytes.data ∈ known.map (·.toUTF8.data) then Blake3.hex bytes else spelled bytes

/-- The character after the number of a byte has a number that is one more. -/
theorem toNat_ofNat_byte (byte : UInt8) : (Char.ofNat (byte.toNat + 1)).toNat = byte.toNat + 1 := by
  have hlt := byte.toNat_lt
  have hvalid : (byte.toNat + 1).isValidChar := .inl (by omega)
  rw [Char.ofNat, dif_pos hvalid]
  rfl

/-- Bytes that are spelled out can be read off again. -/
theorem spelled_injective : Function.Injective spelled := by
  intro a b h
  have hchar : Function.Injective fun byte : UInt8 => Char.ofNat (byte.toNat + 1) := by
    intro x y hxy
    have hnat := congrArg Char.toNat hxy
    rw [toNat_ofNat_byte, toNat_ofNat_byte] at hnat
    exact UInt8.toNat_inj.1 (Nat.succ.inj hnat)
  have hlist := hchar.list_map (List.cons.inj (String.ofList_injective h)).2
  exact ByteArray.ext (Array.toList_inj.1 hlist)

/-- No byte is spelled as the zero character, since all are moved up by one. -/
theorem zero_notMem_spelled (bytes : ByteArray) : '\x00' ∉ (spelled bytes).toList := by
  rw [spelled, String.toList_ofList, List.mem_cons, not_or]
  refine ⟨by decide, fun hmem => ?_⟩
  obtain ⟨byte, -, hbyte⟩ := List.mem_map.1 hmem
  have hnat := congrArg Char.toNat hbyte
  rw [toNat_ofNat_byte] at hnat
  exact absurd hnat (Nat.succ_ne_zero _)

theorem zero_notMem_hexOrSpelled (known : List String) (bytes : ByteArray) :
    '\x00' ∉ (hexOrSpelled known bytes).toList := by
  rw [hexOrSpelled]
  split
  · exact fun hmem => absurd (Blake3.isAlphanum_of_mem_hex hmem) (by decide)
  · exact zero_notMem_spelled bytes

/-- A text that is known has the digest in use. -/
theorem digestTextBy_hexOrSpelled {known : List String} {text : String} (h : text ∈ known) :
    digestTextBy (hexOrSpelled known) text = digestText text := by
  have hmem : text.toUTF8.data ∈ known.map (·.toUTF8.data) := List.mem_map.2 ⟨text, h, rfl⟩
  rw [← digestTextBy_hex, digestTextBy, digestTextBy, hexOrSpelled, if_pos hmem]

/-- If the digest in use tells the known texts apart, the two together tell all bytes apart. -/
theorem hexOrSpelled_injective {known : List String} (h : (known.map digestText).Nodup) :
    Function.Injective (hexOrSpelled known) := by
  -- What is spelled out begins unlike any digest.
  have hne (a b : ByteArray) : Blake3.hex a ≠ spelled b := by
    intro heq
    have hmem : '#' ∈ (Blake3.hex a).toList := by
      rw [heq, spelled, String.toList_ofList]
      exact List.mem_cons_self
    exact absurd (Blake3.isAlphanum_of_mem_hex hmem) (by decide)
  intro a b hab
  rw [hexOrSpelled, hexOrSpelled] at hab
  split at hab <;> split at hab
  · rename_i ha hb
    obtain ⟨text, ht, hta⟩ := List.mem_map.1 ha
    obtain ⟨text', ht', htb⟩ := List.mem_map.1 hb
    obtain rfl := ByteArray.ext hta
    obtain rfl := ByteArray.ext htb
    rw [List.inj_on_of_nodup_map h ht ht' (congrArg ("blake3:" ++ ·) hab)]
  · exact absurd hab (hne a b)
  · exact absurd hab.symm (hne b a)
  · exact spelled_injective hab

/-- A template with one function. -/
def lone : String :=
  "Resources: \x7bF: \x7bType: AWS::Serverless::Function, Properties: \x7bImageUri: a\x7d\x7d\x7d"

/-- What it is compiled to. -/
def loneFunction : FunctionSpec :=
  ⟨"F", "F", .image ⟨"a"⟩, 30, 128, .empty, [], ⟨none, none⟩, [], none⟩

/-- The fingerprints in use of this function are those of a digest that tells bytes apart, so
    that no other functions and resources have its result digest by it. -/
theorem fingerprints_identify_lone :
    ∃ compilation hash, compile lone .empty = .ok compilation ∧
      compilation.functions = [loneFunction] ∧
      compilation.fingerprintsBy (digestTextBy hash) = compilation.fingerprints ∧
      compilation.fingerprints.functions.entries = [("F", loneFunction.fingerprint digestText)] ∧
      ∀ other : Compilation,
        (other.fingerprintsBy (digestTextBy hash)).result = compilation.fingerprints.result ↔
          other.functions = [loneFunction] ∧ other.resources = .empty := by
  obtain ⟨compilation, hcompile, houtput⟩ := exists_of_map_toOption
    (show (compile lone .empty).toOption.map (fun compilation =>
        (compilation.functions, compilation.resources))
      = some ([loneFunction], .empty) by decide +kernel)
  obtain ⟨hfunctions, hresources⟩ := Prod.mk.inj houtput
  let known := compilation.digested digestText
  have hnodup : (known.map digestText).Nodup := by
    simp only [known, Compilation.digested, hfunctions, hresources]
    decide +kernel
  obtain ⟨hresult, -, hmap⟩ :=
    fingerprints_identify (hexOrSpelled_injective hnodup) (zero_notMem_hexOrSpelled known)
  have hfingerprints : compilation.fingerprintsBy (digestTextBy (hexOrSpelled known))
      = compilation.fingerprints :=
    Compilation.fingerprintsBy_congr fun _ => digestTextBy_hexOrSpelled
  refine ⟨compilation, hexOrSpelled known, hcompile, hfunctions, hfingerprints, ?_, fun other => ?_⟩
  · have hmem : loneFunction.toJson.compact ∈ known := by
      simp [known, Compilation.digested, hfunctions]
    have hperm := hmap lone .empty compilation hcompile
    rw [hfingerprints, hfunctions, List.map_singleton, List.perm_singleton] at hperm
    rw [hperm, FunctionSpec.fingerprint, FunctionSpec.fingerprint, digestTextBy_hexOrSpelled hmem]
    rfl
  · rw [← hfingerprints, (hresult other compilation).1, hfunctions, hresources]

end SamTemplate
