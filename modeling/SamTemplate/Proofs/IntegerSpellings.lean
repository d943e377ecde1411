import SamTemplate.Proofs.BlankTexts
import SamTemplate.Proofs.IntegerSettings
import SamTemplate.Proofs.MaskedDefaults
import SamTemplate.Proofs.ParameterPrecedence
import SamTemplate.Proofs.SplitAndJoin

/-!
# Spellings of integers

An integer may be written in a template as a literal, as its decimal text with blanks around it,
or as a reference to a parameter that stands for it, by its default or by a value that is given for
it (`WritesInt`). All of these are resolved to something that stands for the same integer, in
silence. So a setting comes out the same in whatever way it is written, and is the integer.

* `int64?_intText`: the decimal text of an integer reads back, to the limits of 64 bits;
* `WritesInt.resolve`: what is written for an integer is resolved to it;
* `compileDocument_of_respelled`: templates that write a setting in different ways are compiled to
  the same functions and resources, and these have the integer.
-/

namespace SamTemplate

open Node Evaluation Resolution CommandLine

/-! ### Decimal texts -/

section

variable {before text after : List Char}

theorem isBlank_of_isDigit {c : Char} (h : c.isDigit = true) : isBlank c = false :=
  Bool.eq_false_iff.2 fun hblank =>
    nomatch (digitValue?_of_isBlank hblank).symm.trans (Json.digitValue?_of_isDigit h).1

/-- Blanks around a text that has none are cut off. -/
theorem trimChars_padded (hbefore : ∀ c ∈ before, isBlank c = true)
    (hafter : ∀ c ∈ after, isBlank c = true) (hne : text ≠ [])
    (htext : ∀ c ∈ text, isBlank c = false) :
    trimChars (before ++ text ++ after) = text := by
  have hdrop (text rest : List Char) (hne : text ≠ []) (htext : ∀ c ∈ text, isBlank c = false) :
      (text ++ rest).dropWhile isBlank = text ++ rest := by
    obtain ⟨c, others, rfl⟩ := List.exists_cons_of_ne_nil hne
    have hc := htext c List.mem_cons_self
    rw [List.cons_append, List.dropWhile_cons_of_neg (by simp [hc])]
  rw [trimChars, trimEndChars, List.append_assoc, List.dropWhile_append_of_pos hbefore,
    hdrop _ _ hne htext, List.reverse_append,
    List.dropWhile_append_of_pos fun c hc => hafter c (List.mem_reverse.1 hc)]
  have hreverse := hdrop text.reverse [] (by simpa using hne)
    fun c hc => htext c (List.mem_reverse.1 hc)
  rw [List.append_nil] at hreverse
  rw [hreverse, List.reverse_reverse]

end

theorem isBlank_of_mem_intText {i : Int} {c : Char} (h : c ∈ (intText i).toList) :
    isBlank c = false := by
  rcases toList_intText i with ⟨-, htext⟩ | ⟨-, htext⟩
  · exact isBlank_of_isDigit (isDigit_of_mem_natText (htext ▸ h))
  · rw [htext] at h
    rcases List.mem_cons.1 h with rfl | hdigit
    · decide
    · exact isBlank_of_isDigit (isDigit_of_mem_natText hdigit)

theorem dollar_notMem_intText (i : Int) : '$' ∉ (intText i).toList := by
  intro hmem
  rcases toList_intText i with ⟨-, htext⟩ | ⟨-, htext⟩
  · exact absurd (isDigit_of_mem_natText (htext ▸ hmem)) (by decide)
  · rw [htext] at hmem
    rcases List.mem_cons.1 hmem with heq | hdigit
    · exact absurd heq (by decide)
    · exact absurd (isDigit_of_mem_natText hdigit) (by decide)

/-- Digits are a number without a sign. -/
theorem signed?_natText (n : Nat) : signed? 10 (natText n).toList = some (n : Int) := by
  have hunsigned := Json.unsigned?_natText n
  obtain ⟨c, rest, htext⟩ := List.exists_cons_of_ne_nil (toList_natText_ne_nil n)
  have hdigit : c.isDigit = true := isDigit_of_mem_natText (htext ▸ List.mem_cons_self)
  rw [htext] at hunsigned ⊢
  unfold signed?
  -- A digit is neither of the two signs.
  split
  · rename_i heq
    cases heq
    exact absurd hdigit (by decide)
  · rename_i heq
    cases heq
    exact absurd hdigit (by decide)
  · rw [hunsigned]
    rfl

/-- The decimal text of an integer reads back. -/
theorem int64?_intText (i : Int64) : int64? (intText i.toInt).toList = some i := by
  have hsigned : signed? 10 (intText i.toInt).toList = some i.toInt := by
    rcases toList_intText i.toInt with ⟨hpos, htext⟩ | ⟨hneg, htext⟩
    · rw [htext, signed?_natText]
      exact congrArg some (Int.natAbs_of_nonneg hpos)
    · rw [htext, signed?, Json.unsigned?_natText]
      exact congrArg some (Int.eq_neg_natAbs_of_nonpos hneg.le).symm
  rw [int64?, hsigned, Option.bind_some, Reader.int64OfInt?_toInt]

/-! ### What is written for an integer -/

/-- A parameter stands for an integer: it is given the decimal text of the integer, or it is given
    no value and has the integer as its default. -/
inductive StandsFor (document : Entries Node) (overrides : Parameters) (name : String)
    (i : Int64) : Prop
  | given : overrides.get? name = some (intText i.toInt) → StandsFor document overrides name i
  | default : overrides.get? name = none → declaredDefault? document name = some (.int i) →
      StandsFor document overrides name i

/-- What may be written for an integer in a template, with these values given for parameters. -/
inductive WritesInt (document : Entries Node) (overrides : Parameters) (i : Int64) : Node → Prop
  /-- The integer itself. -/
  | literal : WritesInt document overrides i (.int i)
  /-- Its decimal text, with blanks around it. -/
  | text {before after : List Char} : (∀ c ∈ before, isBlank c = true) →
      (∀ c ∈ after, isBlank c = true) →
      WritesInt document overrides i
        (.str (String.ofList (before ++ (intText i.toInt).toList ++ after)))
  /-- A reference to a parameter, whose name is not changed by interpolation. -/
  | ref {name : String} : StandsFor document overrides name i →
      Fixed (effectiveParameters document overrides) name →
      WritesInt document overrides i (.call "Ref" (.str name))
  /-- A token of a parameter, whose name can stand in one. -/
  | token {name : String} : StandsFor document overrides name i → IsName name.toList →
      WritesInt document overrides i (.str (String.ofList (tokenOf name.toList)))

section

variable {document : Entries Node} {overrides : Parameters} {i : Int64} {name : String} {a : Node}

theorem StandsFor.get?_effectiveParameters (h : StandsFor document overrides name i)
    (hw : (Node.map document).WellFormed) :
    (effectiveParameters document overrides).get? name = some (intText i.toInt) := by
  rw [effectiveParameters, Bindings.get?_insertAll _ overrides.sorted.distinct]
  change (overrides.get? name).or _ = _
  cases h with
  | given hgiven => rw [hgiven, Option.some_or]
  | default hnone hdefault =>
    rw [hnone, Option.none_or, get?_declaredParameters hw, hdefault]
    rfl

theorem StandsFor.valueOf?_eq (h : StandsFor document overrides name i)
    (hw : (Node.map document).WellFormed) :
    (effectiveParameters document overrides).valueOf? name.toList = some (intText i.toInt) := by
  unfold Parameters.valueOf?
  rw [String.ofList_toList, h.get?_effectiveParameters hw]

theorem int?_padded {before after : List Char} (hbefore : ∀ c ∈ before, isBlank c = true)
    (hafter : ∀ c ∈ after, isBlank c = true) :
    (Node.str (String.ofList (before ++ (intText i.toInt).toList ++ after))).int? = some i := by
  have hne : (intText i.toInt).toList ≠ [] := fun hnil =>
    intText_ne_empty i.toInt (String.toList_inj.1 hnil)
  rw [int?, String.toList_ofList,
    trimChars_padded hbefore hafter hne fun _ => isBlank_of_mem_intText, int64?_intText]

theorem int?_intText (i : Int64) : (Node.str (intText i.toInt)).int? = some i := by
  have hpadded := @int?_padded i [] [] (by simp) (by simp)
  simpa using hpadded

/-- The token of a parameter gives way to the text of the integer that it stands for. -/
theorem interpolate_tokenOf (h : StandsFor document overrides name i)
    (hw : (Node.map document).WellFormed) (hname : IsName name.toList) :
    interpolate (effectiveParameters document overrides) (String.ofList (tokenOf name.toList))
      = intText i.toInt := by
  have htoken := interpolateFrom_token (effectiveParameters document overrides).valueOf? hname []
  rw [List.append_nil, h.valueOf?_eq hw] at htoken
  rw [interpolate, String.toList_ofList, htoken]
  simp [interpolateFrom]

/-- What is written for an integer is resolved to it, in silence. -/
theorem WritesInt.resolve (h : WritesInt document overrides i a)
    (hw : (Node.map document).WellFormed) {fuel : Nat} {budget : Budget} {s : Session}
    (hs : s.parameters = effectiveParameters document overrides) (hlevels : 2 ≤ budget.remaining)
    (hf : budget.remaining < fuel) :
    ∃ value, Resolution.resolve fuel budget a s = some (value, s) ∧ value.int? = some i := by
  obtain ⟨fuel, rfl⟩ : ∃ n, fuel = n + 1 := ⟨fuel - 1, by omega⟩
  have hspent : budget.spent = false := Budget.spent_eq_false_iff.2 (by omega)
  have hdeeper : 1 ≤ budget.deeper.remaining := Budget.le_remaining_deeper (by omega)
  have hwithin (text : String) : (Node.str text).Within 1 := trivial
  -- A text that stays as it is is resolved to itself on any level that is left.
  have hfixed {text : String} (hfixed : Fixed s.parameters text) :
      Resolution.resolve fuel budget.deeper (.str text) s = some (.str text, s) :=
    resolve_normal_within (.str hfixed) (hwithin text) hdeeper (by omega)
  have hvalue := hfixed (fixed_of_dollar_notMem (dollar_notMem_intText i.toInt))
  cases h with
  | literal =>
    have hwithin : (Node.int i).Within 1 := trivial
    exact ⟨_, resolve_normal_within (.int i) hwithin (by omega) (by omega), rfl⟩
  | text hbefore hafter =>
    refine ⟨_, resolve_normal_within (.str (fixed_of_dollar_notMem ?_)) (hwithin _) (by omega)
      (by omega), int?_padded hbefore hafter⟩
    have hblank : isBlank '$' = false := by decide
    rw [String.toList_ofList, List.mem_append, List.mem_append]
    rintro ((hmem | hmem) | hmem)
    · exact Bool.false_ne_true (hblank.symm.trans (hbefore _ hmem))
    · exact dollar_notMem_intText _ hmem
    · exact Bool.false_ne_true (hblank.symm.trans (hafter _ hmem))
  | @ref name hstands hname =>
    have hexpand : expand fuel budget (.call "Ref" (.str name)) s
        = some (some (.str (intText i.toInt)), s) := by
      have hcall : (Node.call "Ref" (.str name)).intrinsic? = some (.ref, .str name) :=
        Node.intrinsic?_eq_some_iff.2 rfl
      have hread : s.parameters.valueOf? name.toList = some (intText i.toInt) := by
        rw [hs, hstands.valueOf?_eq hw]
      rw [expand, Intrinsic.expand_of_intrinsic? hcall]
      refine bind_eq_some_iff.2 ⟨_, s, hfixed (hs ▸ hname), ?_⟩
      simp only [get_bind_apply, hread, Option.getD_some]
      rfl
    exact ⟨_, resolve_of_resolved (.expanded hspent hexpand hvalue), int?_intText i⟩
  | @token name hstands hname =>
    have hexpand : expand fuel budget (.str (String.ofList (tokenOf name.toList))) s
        = some (some (.str (intText i.toInt)), s) := by
      rw [expand, Intrinsic.expand_str_apply, hs, interpolate_tokenOf hstands hw hname, if_neg]
      intro heq
      have hdollar : '$' ∈ (intText i.toInt).toList := by
        rw [heq, String.toList_ofList]
        exact List.mem_cons_self
      exact dollar_notMem_intText _ hdollar
    exact ⟨_, resolve_of_resolved (.expanded hspent hexpand hvalue), int?_intText i⟩

end

/-! ### Templates -/

/-- What is under a key of templates that agree but for a setting of one resource, and for the
    defaults of parameters. -/
def SectionApart (U : Node → Node → Prop) (setting : Setting) (logicalId key : String)
    (a b : Node) : Prop :=
  if key = "Resources" then ApartAt U (.key logicalId :: setting.path) a b
  else a = b ∨ (key = "Parameters" ∧ ∃ names, OnEntries (DeclaredApart names) a b)

/-- Templates with values for their parameters that agree but for what is written for a setting of
    one resource, the same integer in both, and for defaults that parameters do not take. -/
structure Respelled (setting : Setting) (i : Int64) (logicalId : String)
    (document document' : Entries Node) (overrides overrides' : Parameters) : Prop where
  wellFormed : (Node.map document).WellFormed
  wellFormed' : (Node.map document').WellFormed
  hasResources : "Resources" ∈ document.keys
  sections : List.Forall₂ (fun a b => a.1 = b.1 ∧ SectionApart
    (fun a b => WritesInt document overrides i a ∧ WritesInt document' overrides' i b)
    setting logicalId a.1 a.2 b.2) document document'
  parameters_eq : effectiveParameters document overrides = effectiveParameters document' overrides'

/-- What is under a key of such templates after everything in them that can be resolved is. -/
def ResolvedApart (setting : Setting) (i : Int64) (logicalId key : String) (a b : Node) : Prop :=
  if key = "Resources" then
    Option.Rel (Entries.AgreesBut logicalId (ApartAt (BothInt i) setting.path)) a.entries?
      b.entries?
  else a = b ∨ key = "Parameters"

namespace Session

/-- Sessions with these parameters that differ in the notices only. -/
def NotedUnder (parameters : Parameters) (s t : Session) : Prop :=
  s.Noted t ∧ s.parameters = parameters

theorem matching_notedUnder (parameters : Parameters) : Matching (NotedUnder parameters) where
  parameters _ _ h := h.1.parameters_eq
  note _ _ notice h := ⟨h.1.note notice, h.2⟩
  conditions _ _ h := matching_noted.conditions _ _ h.1
  decided _ _ h := matching_noted.decided _ _ h.1
  pending _ _ h := matching_noted.pending _ _ h.1
  enter _ _ name h := ⟨h.1.enter name, h.2⟩
  leave _ _ name value h := ⟨h.1.leave name value, h.2⟩

theorem blind_notedUnder (parameters : Parameters) : Blind (NotedUnder parameters) :=
  fun _ _ _ _ h hs ht => ⟨blind_noted _ _ _ _ h.1 hs ht, hs.parameters_eq.symm.trans h.2⟩

end Session

/-- What is under the key, in the order of the keys too, is related to something. -/
theorem Entries.AgreesBut.exists_of_mem_inKeyOrder {α : Type} {key : String} {R : α → α → Prop}
    {entries entries' : Entries α} {a : α} (h : entries.AgreesBut key R entries')
    (hmem : (key, a) ∈ entries.inKeyOrder) : ∃ b, R a b := by
  have hentries : (key, a) ∈ entries := Bindings.mem_of_get?_ofList
    ((Entries.get?_eq_some_iff (Bindings.ofList entries).sorted.distinct).2 hmem)
  clear hmem
  induction h with
  | nil => exact nomatch hentries
  | cons hpair _ ih =>
    rcases List.mem_cons.1 hentries with heq | hrest
    · subst heq
      exact ⟨_, (if_pos rfl).mp hpair.2⟩
    · exact ih hrest

/-- Resources that agree but for a setting are extracted to the same. -/
theorem extract_eq_of_agreesBut {setting : Setting} {i : Int64} {logicalId : String}
    {root root' resources resources' : Entries Node}
    (hglobals : root.get? "Globals" = root'.get? "Globals")
    (h : resources.AgreesBut logicalId (ApartAt (BothInt i) setting.path) resources') :
    extract root resources = extract root' resources' := by
  have hdefaults : FunctionDefaults.ofTemplate root = .ofTemplate root' := by
    rw [FunctionDefaults.ofTemplate, FunctionDefaults.ofTemplate, hglobals]
  refine extract_eq_of_alike (Entries.forall₂_inKeyOrder (h.imp ?_))
  rintro a b ⟨hkey, hvalue⟩
  refine ⟨hkey, ?_⟩
  rw [← hdefaults]
  split_ifs at hvalue
  · exact Setting.resourceAlike hvalue _
  · rw [hvalue]
    exact .refl _ _

namespace Respelled

variable {setting : Setting} {i : Int64} {logicalId : String} {document document' : Entries Node}
  {overrides overrides' : Parameters}
  (h : Respelled setting i logicalId document document' overrides overrides')
include h

/-- What is written for the setting is resolved to its integer in both. -/
theorem writes_relates {fuel : Nat} {budget : Budget} {a b : Node} (hlevels : 2 ≤ budget.remaining)
    (hf : budget.remaining < fuel)
    (hab : WritesInt document overrides i a ∧ WritesInt document' overrides' i b) :
    Relates (Session.NotedUnder (effectiveParameters document overrides)) (BothInt i)
      (resolve fuel budget a) (resolve fuel budget b) := by
  refine relates_of_noted (Session.blind_notedUnder _) (fun s t hst => ?_) fun s t hst => ?_
  · obtain ⟨value, hvalue, hint⟩ := hab.1.resolve h.wellFormed hst.2 hlevels hf
    exact ⟨value, s, hvalue, hint, .refl s⟩
  · have hparameters := (hst.1.parameters_eq.symm.trans hst.2).trans h.parameters_eq
    obtain ⟨value, hvalue, hint⟩ := hab.2.resolve h.wellFormed' hparameters hlevels hf
    exact ⟨value, t, hvalue, hint, .refl t⟩

/-- The resources are resolved to resources that agree but for the setting, or to none if they are
    a call. -/
theorem resources_relate {fuel : Nat} {budget : Budget} {a b : Node}
    (hlevels : setting.path.length + 3 ≤ budget.remaining) (hf : budget.remaining < fuel)
    (hab : ApartAt
      (fun a b => WritesInt document overrides i a ∧ WritesInt document' overrides' i b)
      (.key logicalId :: setting.path) a b) :
    Relates (Session.NotedUnder (effectiveParameters document overrides))
      (fun a b => Option.Rel (Entries.AgreesBut logicalId (ApartAt (BothInt i) setting.path))
        a.entries? b.entries?)
      (resolve fuel budget a) (resolve fuel budget b) := by
  have hR := Session.matching_notedUnder (effectiveParameters document overrides)
  obtain ⟨entries, entries', rfl, rfl, hmem, hagrees⟩ := hab
  obtain ⟨fuel, rfl⟩ : ∃ n, fuel = n + 1 := ⟨fuel - 1, by omega⟩
  have hs : budget.spent = false := Budget.spent_eq_false_iff.2 (by omega)
  have hbelow := Budget.remaining_deeper_lt hs hf
  have hresource {a b : Node} (hab : ApartAt (fun a b =>
      WritesInt document overrides i a ∧ WritesInt document' overrides' i b) setting.path a b) :=
    hab.resolve_relates hR h.writes_relates setting.nameless_path
      (Budget.le_remaining_deeper (by omega)) hbelow
  refine (resolve_section_relates hR (Session.blind_notedUnder _) hs hf hagrees.keys_eq ?_
    (Relates.entries
      (V := fun key c d => if key = logicalId then ApartAt (BothInt i) setting.path c d else c = d)
      (relates_of_agreesBut hR hagrees fun _ _ => hresource))).imp ?_
  · rintro name a b rfl rfl
    -- The only resource is the one with the setting.
    obtain rfl : logicalId = name := List.mem_singleton.1 hmem
    rcases hagrees with _ | ⟨⟨-, hab⟩, -⟩
    have hab : ApartAt _ setting.path a b := (if_pos rfl).mp hab
    refine ⟨?_, (hresource hab).imp ?_⟩
    · obtain ⟨_, _, ha, hb, -⟩ := hab
      exact ⟨_, _, ha, hb, trivial⟩
    · rintro _ _ ⟨_, _, ha, hb, -⟩
      exact ⟨_, _, ha, hb, trivial⟩
  · rintro a b (⟨ha, hb⟩ | ⟨values, values', rfl, rfl, -, hvalues⟩)
    · rw [ha.entries?_eq_none, hb.entries?_eq_none]
      exact .none
    · exact .some hvalues

/-- A section beside the resources and the parameters is the same in both. -/
theorem get?_eq {key : String} (hresources : key ≠ "Resources") (hparameters : key ≠ "Parameters") :
    document.get? key = document'.get? key := by
  rcases rel_cases (Entries.get?_of_keyed h.sections key) with
    ⟨hnone, hnone'⟩ | ⟨a, b, hsome, hsome', hab⟩
  · rw [hnone, hnone']
  · rw [SectionApart, if_neg hresources] at hab
    rw [hsome, hsome', hab.resolve_right fun hkey => hparameters hkey.1]

/-- The templates are resolved to templates with resources that agree but for the setting. -/
theorem root_relates {fuel : Nat} (hf : Budget.remaining {} < fuel) :
    Relates (Session.NotedUnder (effectiveParameters document overrides))
      (OnEntries fun root root' => root.get? "Globals" = root'.get? "Globals" ∧
        Option.Rel (Entries.AgreesBut logicalId (ApartAt (BothInt i) setting.path))
          ((root.get? "Resources").bind entries?) ((root'.get? "Resources").bind entries?))
      (resolve fuel {} (.map document)) (resolve fuel {} (.map document')) := by
  have hR := Session.matching_notedUnder (effectiveParameters document overrides)
  obtain ⟨fuel, rfl⟩ : ∃ n, fuel = n + 1 := ⟨fuel - 1, by omega⟩
  have hbelow := Budget.remaining_deeper_lt rfl hf
  refine (resolve_keyed_relates (V := ResolvedApart setting i logicalId) hR rfl h.hasResources rfl
    (h.sections.imp ?_)).imp ?_
  · rintro ⟨key, a⟩ ⟨key', b⟩ ⟨hkey, hab⟩
    refine ⟨hkey, ?_⟩
    unfold SectionApart at hab
    unfold ResolvedApart
    split_ifs at hab ⊢ with hresources
    · have hlength := setting.length_path_le
      exact h.resources_relate (Nat.le_trans (Nat.add_le_add_right hlength 3) (by decide)) hbelow
        hab
    · rcases hab with heq | ⟨hparameters, names, declared, declared', hd, hd', hdeclared⟩
      · obtain rfl : a = b := heq
        exact (resolve_relates hR _ _ _).imp fun _ _ => .inl
      · obtain rfl : a = .map declared := hd
        obtain rfl : b = .map declared' := hd'
        exact (hdeclared.resolve_relates hR (Session.blind_notedUnder _) (by decide) hbelow).imp
          fun _ _ _ => .inr hparameters
  · rintro _ _ ⟨root, root', rfl, rfl, -, hroot⟩
    refine ⟨root, root', rfl, rfl, ?_, ?_⟩
    · rcases rel_cases (Entries.get?_of_keyed hroot "Globals") with
        ⟨hnone, hnone'⟩ | ⟨a, b, hsome, hsome', hab⟩
      · rw [hnone, hnone']
      · rw [ResolvedApart, if_neg (by decide)] at hab
        rw [hsome, hsome', hab.resolve_right (by decide)]
    · exact rel_bind (Entries.get?_of_keyed hroot "Resources") fun a b hab => by
        simpa only [ResolvedApart, if_true] using hab

theorem resolved :
    ∃ root root' : Entries Node, (resolveDocument document overrides).1 = .map root ∧
      (resolveDocument document' overrides').1 = .map root' ∧
      root.get? "Globals" = root'.get? "Globals" ∧
      Option.Rel (Entries.AgreesBut logicalId (ApartAt (BothInt i) setting.path))
        ((root.get? "Resources").bind entries?) ((root'.get? "Resources").bind entries?) := by
  have hparameters := h.parameters_eq
  rw [effectiveParameters, effectiveParameters] at hparameters
  have hrelates := @root_relates _ _ _ _ _ _ _ h
  -- Both sessions start with the same parameters and the same conditions.
  rw [resolveDocument, resolveDocument, ← hparameters, ← h.get?_eq (by decide) (by decide)]
  rw [effectiveParameters] at hrelates
  generalize hstart : Session.start _ _ = s
  have hs : s.parameters = (declaredParameters document).insertAll overrides.entries := by
    rw [← hstart]
    rfl
  have hfuel : Budget.remaining {} < s.nesting {} := by
    rw [Session.nesting]
    omega
  obtain ⟨value', t', hvalue', ⟨root, root', hr, hr', hroot⟩, -⟩ :=
    hrelates hfuel s s _ _ ⟨.refl s, hs⟩ (s.resolveAt_spec {} (.map document))
  have hresult := Option.some.inj ((s.resolveAt_spec {} (.map document')).symm.trans hvalue')
  exact ⟨root, root', hr, (congrArg Prod.fst hresult).trans hr', hroot⟩

/-- The resource with the setting agrees with one in the other template. -/
theorem exists_apart {resource : Node}
    (hmem : (logicalId, resource) ∈ (resolvedResources document overrides).inKeyOrder) :
    ∃ other, ApartAt (BothInt i) setting.path resource other := by
  obtain ⟨root, root', hr, -, -, hresources⟩ := h.resolved
  rw [resolvedResources, hr] at hmem
  change (logicalId, resource) ∈
    (((root.get? "Resources").bind entries?).getD []).inKeyOrder at hmem
  rcases rel_cases hresources with ⟨hnone, -⟩ | ⟨resources, resources', hsome, -, hagrees⟩
  · rw [hnone] at hmem
    exact absurd hmem List.not_mem_nil
  · rw [hsome] at hmem
    exact hagrees.exists_of_mem_inKeyOrder hmem

theorem compileDocument_eq :
    (compileDocument document overrides).map
        (fun compilation => (compilation.functions, compilation.resources))
      = (compileDocument document' overrides').map
          fun compilation => (compilation.functions, compilation.resources) := by
  obtain ⟨root, root', hr, hr', hglobals, hresources⟩ := h.resolved
  have hentries : (resolveDocument document overrides).1.entries? = some root := by rw [hr]; rfl
  have hentries' : (resolveDocument document' overrides').1.entries? = some root' := by
    rw [hr']
    rfl
  rcases rel_cases hresources with ⟨hnone, hnone'⟩ | ⟨resources, resources', hsome, hsome', hagrees⟩
  · rw [compileDocument_of_noResources hentries hnone,
      compileDocument_of_noResources hentries' hnone']
    rfl
  · have hextract := extract_eq_of_agreesBut hglobals hagrees
    obtain ⟨functions, told, hfunctions⟩ :=
      collectFunctions_tells resources (.ofTemplate root) (collectLayers resources)
    obtain ⟨specs, told', hx⟩ := extract_tells hfunctions
    rw [compileDocument_of_resources hentries hsome hx,
      compileDocument_of_resources hentries' hsome' (hextract ▸ hx)]
    cases functions <;> rfl

end Respelled

/-- What a resource has in a property after the template is resolved. -/
def resolvedProperty? (document : Entries Node) (overrides : Parameters) (logicalId key : String) :
    Option Node :=
  (((Bindings.ofList (resolvedResources document overrides)).get? logicalId).bind
    properties?).bind (·.get? key)

theorem resolvedProperty?_of_mem {document : Entries Node} {overrides : Parameters}
    {logicalId : String} {resource : Node}
    (h : (logicalId, resource) ∈ (resolvedResources document overrides).inKeyOrder)
    (key : String) :
    resolvedProperty? document overrides logicalId key
      = (properties? resource).bind (·.get? key) := by
  rw [resolvedProperty?, mem_inKeyOrder_iff.1 h, Option.bind_some]

/-- Templates that write a setting in different ways are compiled to the same functions and
    resources, or there is the same error; and the functions, tables and buckets that come of the
    resource with the setting have its integer. -/
theorem compileDocument_of_respelled {setting : Setting} {i : Int64} {logicalId : String}
    {document document' : Entries Node} {overrides overrides' : Parameters}
    (h : Respelled setting i logicalId document document' overrides overrides') :
    (compileDocument document overrides).map
        (fun compilation => (compilation.functions, compilation.resources))
      = (compileDocument document' overrides').map
          (fun compilation => (compilation.functions, compilation.resources)) ∧
    ∀ compilation, compileDocument document overrides = .ok compilation →
      (∀ function ∈ compilation.functions, function.logicalId = logicalId →
        setting.InFunction i function) ∧
      (compilation.resources.tables = (collectedTables document overrides).map (·.2) ∧
        ∀ table, (logicalId, table) ∈ collectedTables document overrides →
          ∃ given, resolvedProperty? document overrides logicalId setting.property = some given ∧
            setting.InTable i given table) ∧
      (compilation.resources.buckets = (collectedBuckets document overrides).map (·.2) ∧
        ∀ bucket, (logicalId, bucket) ∈ collectedBuckets document overrides →
          ∃ given, resolvedProperty? document overrides logicalId setting.property = some given ∧
            setting.InBucket i given bucket) := by
  refine ⟨h.compileDocument_eq, fun compilation hc => ?_⟩
  have hcollected := compileDocument_collectedFrom hc
  refine ⟨fun function hmem hid => ?_, ⟨hcollected.tables_eq, fun table hmem => ?_⟩,
    ⟨hcollected.buckets_eq, fun bucket hmem => ?_⟩⟩
  · obtain ⟨resource, hget, he⟩ := hcollected.exists_emits hmem
    obtain ⟨other, hapart⟩ := h.exists_apart (mem_inKeyOrder_iff.2 (hid ▸ hget))
    exact Setting.inFunction_of_emits hapart he
  · obtain ⟨resource, hresource, rfl⟩ := exists_of_mem_specsOf hmem
    obtain ⟨other, hapart⟩ := h.exists_apart hresource
    rw [resolvedProperty?_of_mem hresource]
    exact Setting.inTable_tableSpec hapart logicalId
  · obtain ⟨resource, hresource, rfl⟩ := exists_of_mem_specsOf hmem
    obtain ⟨other, hapart⟩ := h.exists_apart hresource
    rw [resolvedProperty?_of_mem hresource]
    exact Setting.inBucket_bucketSpec hapart logicalId

/-- A template with a function whose time and handler are written so, and a parameter with this
    default. -/
def timed (name : String) (default time handler : Node) : Entries Node :=
  [("Parameters", .map [(name, .map [("Type", .str "Number"), ("Default", default)])]),
    ("Resources", .map [
      ("Resize", .map [
        ("Type", .str "AWS::Serverless::Function"),
        ("Properties", .map [("Timeout", time), ("Handler", handler)])])])]

theorem timed_wellFormed {name : String} {default time handler : Node}
    (hdefault : default.WellFormed) (htime : time.WellFormed) (hhandler : handler.WellFormed) :
    (Node.map (timed name default time handler)).WellFormed := by
  simp [timed, wellFormed_map, Entries.Distinct, Entries.keys, WellFormed.str, hdefault, htime,
    hhandler]

theorem timed_respelled {name : String} {i : Int64} {default default' time time' handler : Node}
    {overrides overrides' : Parameters} (hdefault : default.IsScalar)
    (hdefault' : default'.IsScalar)
    (hw : (Node.map (timed name default time handler)).WellFormed)
    (hw' : (Node.map (timed name default' time' handler)).WellFormed)
    (htime : WritesInt (timed name default time handler) overrides i time)
    (htime' : WritesInt (timed name default' time' handler) overrides' i time')
    (hparameters : effectiveParameters (timed name default time handler) overrides
      = effectiveParameters (timed name default' time' handler) overrides') :
    Respelled .timeout i "Resize" (timed name default time handler)
      (timed name default' time' handler) overrides overrides' where
  wellFormed := hw
  wellFormed' := hw'
  hasResources := by simp [timed, Entries.keys]
  sections := by
    have hdefaults : DefaultsApart (.map [("Type", .str "Number"), ("Default", default)])
        (.map [("Type", .str "Number"), ("Default", default')]) :=
      ⟨_, _, rfl, rfl, by simp [Entries.keys], .cons ⟨rfl, rfl⟩
        (.cons ⟨rfl, hdefault, hdefault'⟩ .nil)⟩
    have hdeclared : DeclaredApart [name]
        [(name, .map [("Type", .str "Number"), ("Default", default)])]
        [(name, .map [("Type", .str "Number"), ("Default", default')])] :=
      .cons ⟨rfl, .inr ⟨List.mem_singleton.2 rfl, hdefaults⟩⟩ .nil
    -- After the parameters, down from the resources to the setting.
    refine .cons ⟨rfl, .inr ⟨rfl, _, _, _, rfl, rfl, hdeclared⟩⟩ (.cons ⟨rfl, ?_⟩ .nil)
    refine ⟨_, _, rfl, rfl, by simp [Entries.keys], .cons ⟨rfl, ?_⟩ .nil⟩
    refine ⟨_, _, rfl, rfl, by simp [Entries.keys], .cons ⟨rfl, rfl⟩ (.cons ⟨rfl, ?_⟩ .nil)⟩
    exact ⟨_, _, rfl, rfl, by simp [Entries.keys, Setting.property],
      .cons ⟨rfl, htime, htime'⟩ (.cons ⟨rfl, rfl⟩ .nil)⟩
  parameters_eq := hparameters

/-- The least integer that there is. -/
def least : Int64 := Int64.minValue

/-- A value for the parameter. -/
def leastGiven : Parameters := .ofList [("Seconds", "-9223372036854775808")]

/-- A reference to a parameter whose default is the least integer, and a token of one with
    another default that is given this integer. -/
theorem compileDocument_timed :
    Respelled .timeout least "Resize"
        (timed "Seconds" (.int least) (.call "Ref" (.str "Seconds")) (.str "main"))
        (timed "Seconds" (.int 30) (.str "${Seconds}") (.str "main")) .empty leastGiven ∧
      (compileDocument (timed "Seconds" (.int least) (.call "Ref" (.str "Seconds")) (.str "main"))
          .empty).map (fun compilation => (compilation.functions, compilation.resources))
        = (compileDocument (timed "Seconds" (.int 30) (.str "${Seconds}") (.str "main"))
            leastGiven).map (fun compilation => (compilation.functions, compilation.resources)) ∧
      (compileDocument (timed "Seconds" (.int least) (.call "Ref" (.str "Seconds")) (.str "main"))
          .empty).map (fun compilation => compilation.functions.map (·.timeout)) = .ok [least] := by
  have hdefault : WritesInt
      (timed "Seconds" (.int least) (.call "Ref" (.str "Seconds")) (.str "main")) .empty least
      (.call "Ref" (.str "Seconds")) := .ref (.default rfl rfl) (by decide +kernel)
  have hgiven : WritesInt (timed "Seconds" (.int 30) (.str "${Seconds}") (.str "main")) leastGiven
      least (.str (String.ofList (tokenOf "Seconds".toList))) :=
    .token (.given (by decide +kernel)) ⟨by decide, List.all_eq_true.1 (by decide)⟩
  have hrespelled : Respelled .timeout least "Resize"
      (timed "Seconds" (.int least) (.call "Ref" (.str "Seconds")) (.str "main"))
      (timed "Seconds" (.int 30) (.str (String.ofList (tokenOf "Seconds".toList))) (.str "main"))
      .empty leastGiven :=
    timed_respelled trivial trivial
      (timed_wellFormed (.int _) (wellFormed_call.2 (.str _)) (.str _))
      (timed_wellFormed (.int _) (.str _) (.str _)) hdefault hgiven (by decide +kernel)
  exact ⟨hrespelled, (compileDocument_of_respelled hrespelled).1, by decide +kernel⟩

/-- A table whose capacity lacks a number. -/
def halfReserved : Entries Node :=
  [("Resources", .map [
    ("Orders", .map [
      ("Type", .str "AWS::DynamoDB::Table"),
      ("Properties", .map [
        ("ProvisionedThroughput", .map [("ReadCapacityUnits", .int 5)])])])])]

/-- A parameter whose name has a dash is read by a reference but not by a token, and one whose
    name has a token in it by neither. Where the handler reads the parameter too, the function
    of the integer itself is another one as long as the parameter stands for something else. And
    a capacity that lacks a number is not there, whatever the other one is. -/
theorem compileDocument_timed_dashed :
    (CommandLine.declaredDefault? (timed "run-time" (.int 5) (.str "${run-time}") (.str "main"))
          "run-time" = some (.int 5) ∧
        (compileDocument (timed "run-time" (.int 5) (.call "Ref" (.str "run-time")) (.str "main"))
          .empty).map (fun compilation => compilation.functions.map (·.timeout)) = .ok [5] ∧
        (compileDocument (timed "run-time" (.int 5) (.str "${run-time}") (.str "main"))
          .empty).map (fun compilation => compilation.functions.map (·.timeout)) = .ok [30]) ∧
      (CommandLine.declaredDefault? (timed "${AWS::Region}" (.int 5)
          (.call "Ref" (.str "${AWS::Region}")) (.str "main")) "${AWS::Region}" = some (.int 5) ∧
        (compileDocument (timed "${AWS::Region}" (.int 5) (.call "Ref" (.str "${AWS::Region}"))
          (.str "main")) .empty).map (fun compilation => compilation.functions.map (·.timeout))
            = .ok [30]) ∧
      (compileDocument (timed "Seconds" (.int 30) (.int least) (.str "${Seconds}")) .empty).map
          (·.functions)
        ≠ (compileDocument (timed "Seconds" (.int 30) (.call "Ref" (.str "Seconds"))
            (.str "${Seconds}")) leastGiven).map (·.functions) ∧
      (compileDocument halfReserved .empty).map
          (fun compilation => compilation.resources.tables.map (·.provisionedThroughput))
        = .ok [none] :=
  ⟨⟨rfl, by decide +kernel, by decide +kernel⟩, ⟨rfl, by decide +kernel⟩, by decide +kernel,
    by decide +kernel⟩

end SamTemplate
