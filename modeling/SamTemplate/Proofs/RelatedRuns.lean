import SamTemplate.Proofs.Isolation
import SamTemplate.Proofs.Meaning

/-!
# Runs of different computations

Two computations are related under a relation of sessions and a relation of results if from
related sessions the second one gives something related to what the first one gives, and leaves
related sessions behind (`Evaluation.Relates`). One rule for each way of putting computations
together takes this from the steps to the whole. Trees that differ are then resolved to results
that are related if what they hold is, as long as they are calls, sequences or mappings at the
same places.

* `Evaluation.Relates.bind`, `Evaluation.Relates.mapM`: one computation after another;
* `Resolution.resolve_map_relates`, `Resolution.resolve_seq_relates`: one level of a tree;
* `Resolution.resolve_section_relates`: a mapping that is a call if it happens to have the name of
  a function as its only key.
-/

namespace SamTemplate

open Node Evaluation

/-! ### Sessions that differ in notices -/

namespace Session.Noted

variable {s t u : Session}

theorem symm (h : s.Noted t) : t.Noted s := by
  rw [Noted, h]

theorem parameters_eq (h : s.Noted t) : s.parameters = t.parameters := by
  rw [h]

theorem enter (h : s.Noted t) (name : String) : (s.enter name).Noted (t.enter name) := by
  rw [Noted, h]
  rfl

theorem leave (h : s.Noted t) (name : String) (value : Bool) :
    (s.leave name value).Noted (t.leave name value) := by
  rw [Noted, h]
  rfl

theorem note (h : s.Noted t) (notice : Notice) : (s.note notice).Noted (t.note notice) := by
  rw [Noted, h]
  rfl

end Session.Noted

/-- Nothing that is done in a session looks at the notices. -/
theorem matching_noted : Matching Session.Noted where
  parameters _ _ h := h.parameters_eq
  note _ _ notice h := h.note notice
  conditions _ _ h := by rw [h]
  decided _ _ h := by rw [h]
  pending _ _ h := by rw [h]
  enter _ _ name h := h.enter name
  leave _ _ name value h := h.leave name value

/-- A relation of sessions that does not look at the notices. -/
def Session.Blind (R : Session → Session → Prop) : Prop :=
  ∀ s t s' t', R s t → s.Noted s' → t.Noted t' → R s' t'

theorem Session.blind_noted : Blind Noted := fun _ _ _ _ h hs ht => hs.symm.trans (h.trans ht)

namespace Evaluation

variable {α β γ δ : Type} {R : Session → Session → Prop}

/-- In related sessions, the second computation gives what the first one gives, up to a relation
    of the results. -/
def Relates (R : Session → Session → Prop) (S : α → β → Prop) (x : Evaluation α)
    (y : Evaluation β) : Prop :=
  ∀ s t a s', R s t → x s = some (a, s') → ∃ b t', y t = some (b, t') ∧ S a b ∧ R s' t'

namespace Relates

variable {S : α → β → Prop} {T : γ → δ → Prop} {x : Evaluation α} {y : Evaluation β}

theorem of_simulates {x y : Evaluation α} (h : Simulates R x y) : Relates R Eq x y := by
  intro s t a s' hs hx
  obtain ⟨t', ht, hs'⟩ := h s t a s' hs hx
  exact ⟨a, t', ht, rfl, hs'⟩

theorem imp {S' : α → β → Prop} (h : Relates R S x y) (hS : ∀ a b, S a b → S' a b) :
    Relates R S' x y := by
  intro s t a s' hs hx
  obtain ⟨b, t', ht, hab, hs'⟩ := h s t a s' hs hx
  exact ⟨b, t', ht, hS a b hab, hs'⟩

/-- The results do not matter. -/
theorem forget (h : Relates R S x y) : Relates R (fun _ _ => True) x y := h.imp fun _ _ _ => trivial

theorem pure {a : α} {b : β} (h : S a b) : Relates R S (Pure.pure a) (Pure.pure b) := by
  intro s t a' s' hs hx
  obtain ⟨rfl, rfl⟩ := pure_eq_some_iff.1 hx
  exact ⟨b, t, rfl, h, hs⟩

theorem bind {f : α → Evaluation γ} {g : β → Evaluation δ} (h : Relates R S x y)
    (hfg : ∀ a b, S a b → Relates R T (f a) (g b)) : Relates R T (x >>= f) (y >>= g) := by
  intro s t c s' hs hx
  obtain ⟨a, u, ha, hc⟩ := bind_eq_some_iff.1 hx
  obtain ⟨b, v, hb, hab, hu⟩ := h s t a u hs ha
  obtain ⟨d, t', hd, hcd, hs'⟩ := hfg a b hab u v c s' hu hc
  exact ⟨d, t', bind_eq_some_iff.2 ⟨b, v, hb, hd⟩, hcd, hs'⟩

/-- Declining for the same reason. -/
theorem decline (hR : Comparable R) {S : α → β → Prop} (notice : Notice) :
    Relates R (Option.Rel S) (Evaluation.decline notice) (Evaluation.decline notice) :=
  (of_simulates ((compositional_simulates hR).note notice)).bind fun _ _ _ => pure .none

theorem mapM {f : α → Evaluation γ} {g : β → Evaluation δ} {l : List α} {l' : List β}
    (h : List.Forall₂ (fun a b => Relates R T (f a) (g b)) l l') :
    Relates R (List.Forall₂ T) (l.mapM f) (l'.mapM g) := by
  induction h with
  | nil => simpa using pure .nil
  | cons hab _ ih =>
    rw [List.mapM_cons, List.mapM_cons]
    exact hab.bind fun _ _ hc => ih.bind fun _ _ hcs => pure (.cons hc hcs)

/-- Entry by entry, mappings with the same keys, which stay. -/
theorem entries {walk : Node → Evaluation Node} {V : String → Node → Node → Prop}
    {entries entries' : Entries Node}
    (h : List.Forall₂ (fun a b => a.1 = b.1 ∧ Relates R (V a.1) (walk a.2) (walk b.2))
      entries entries') :
    Relates R (fun values values' : Entries Node => values.keys = entries.keys ∧
        List.Forall₂ (fun a b => a.1 = b.1 ∧ V a.1 a.2 b.2) values values')
      (entries.mapM fun (key, value) => do return (key, ← walk value))
      (entries'.mapM fun (key, value) => do return (key, ← walk value)) := by
  induction h with
  | nil => simpa using pure ⟨rfl, .nil⟩
  | @cons a b _ _ hab _ ih =>
    rw [List.mapM_cons, List.mapM_cons]
    have hpair : Relates R (fun c d : String × Node => c.1 = a.1 ∧ d.1 = b.1 ∧ V a.1 c.2 d.2)
        (do return (a.1, ← walk a.2)) (do return (b.1, ← walk b.2)) :=
      hab.2.bind fun _ _ hv => pure ⟨rfl, rfl, hv⟩
    refine hpair.bind fun c d ⟨hc, hd, hv⟩ => ih.bind fun _ _ ⟨hkeys, hrest⟩ => pure ⟨?_, ?_⟩
    · exact congrArg₂ List.cons hc hkeys
    · exact .cons ⟨hc.trans (hab.1.trans hd.symm), hc ▸ hv⟩ hrest

end Relates

end Evaluation

/-! ### Trees level by level -/

/-- Mappings with related entries. -/
def Node.OnEntries (W : Entries Node → Entries Node → Prop) (a b : Node) : Prop :=
  ∃ entries entries' : Entries Node, a = .map entries ∧ b = .map entries' ∧ W entries entries'

/-- Sequences with related items. -/
def Node.OnItems (W : List Node → List Node → Prop) (a b : Node) : Prop :=
  ∃ items items' : List Node, a = .seq items ∧ b = .seq items' ∧ W items items'

namespace Resolution

variable {R : Session → Session → Prop} {fuel : Nat} {budget : Budget}

/-- The same tree in sessions that match. -/
theorem resolve_relates (hR : Matching R) (fuel : Nat) (budget : Budget) (node : Node) :
    Relates R Eq (resolve fuel budget node) (resolve fuel budget node) :=
  .of_simulates ((simulates hR fuel fuel (Nat.le_refl fuel)).1 budget node)

/-- Mappings are resolved to what is related if their expansions and their entries are. -/
theorem resolve_map_relates (hR : Comparable R) {S V : Node → Node → Prop}
    {entries entries' : Entries Node}
    (hspent : budget.spent = true → V (.map entries) (.map entries'))
    (hexpand : budget.spent = false → Relates R (Option.Rel S)
      (expand fuel budget (.map entries)) (expand fuel budget (.map entries')))
    (hrest : budget.spent = false → ∀ a b, S a b →
      Relates R V (resolve fuel budget.deeper a) (resolve fuel budget.deeper b))
    (hentries : budget.spent = false →
      Relates R (fun values values' => V (.map values) (.map values'))
        (entries.mapM (m := Evaluation)
          fun (key, value) => do return (key, ← resolve fuel budget.deeper value))
        (entries'.mapM (m := Evaluation)
          fun (key, value) => do return (key, ← resolve fuel budget.deeper value))) :
    Relates R V (resolve (fuel + 1) budget (.map entries))
      (resolve (fuel + 1) budget (.map entries')) := by
  intro s t value s' hst hx
  -- How the first mapping is resolved decides the case, and the second one follows it.
  cases resolved_of_resolve hx with
  | spent hs => exact ⟨_, _, resolve_of_resolved (.spent hs), hspent hs, hR.note _ _ _ hst⟩
  | expanded hs hsome hvalue =>
    obtain ⟨_, v, hsome', ⟨hrel⟩, huv⟩ := hexpand hs _ _ _ _ hst hsome
    obtain ⟨value', t', hvalue', hV, hnoted⟩ := hrest hs _ _ hrel _ _ _ _ huv hvalue
    exact ⟨value', t', resolve_of_resolved (.expanded hs hsome' hvalue'), hV, hnoted⟩
  | map hs hnone hvalues =>
    obtain ⟨_, v, hnone', ⟨⟩, huv⟩ := hexpand hs _ _ _ _ hst hnone
    obtain ⟨values', t', hvalues', hV, hnoted⟩ := hentries hs _ _ _ _ huv hvalues
    exact ⟨_, t', resolve_of_resolved (.map hs hnone' hvalues'), hV, hnoted⟩
  | leaf _ _ _ hmap => exact nomatch hmap

/-- Mappings with a key that names no function are no calls, and are resolved entry by entry. -/
theorem resolve_keyed_relates (hR : Matching R) {key : String} {V : String → Node → Node → Prop}
    {entries entries' : Entries Node} (hname : Intrinsic.ofName? key = none)
    (hmem : key ∈ entries.keys) (hs : budget.spent = false)
    (h : List.Forall₂ (fun a b => a.1 = b.1 ∧ Relates R (V a.1) (resolve fuel budget.deeper a.2)
      (resolve fuel budget.deeper b.2)) entries entries') :
    Relates R (OnEntries fun values values' => values.keys = entries.keys ∧
        List.Forall₂ (fun a b => a.1 = b.1 ∧ V a.1 a.2 b.2) values values')
      (resolve (fuel + 1) budget (.map entries)) (resolve (fuel + 1) budget (.map entries')) := by
  have hkeys : entries.keys = entries'.keys := map_eq_of_forall₂ h fun _ _ hpair => hpair.1
  refine resolve_map_relates hR.toComparable (S := fun _ _ => False)
    (fun hspent => absurd (hspent.symm.trans hs) (by decide)) (fun _ => ?_)
    (fun _ _ _ hfalse => hfalse.elim)
    fun _ => (Relates.entries h).imp fun _ _ hV => ⟨_, _, rfl, rfl, hV⟩
  -- With such a key neither mapping is a call, so nothing is expanded.
  have hcall := intrinsic?_eq_none_of_mem_keys hmem hname
  have hcall' := intrinsic?_eq_none_of_mem_keys (hkeys ▸ hmem) hname
  rw [expand, expand, Intrinsic.expand_of_intrinsic?_eq_none hcall (by simp),
    Intrinsic.expand_of_intrinsic?_eq_none hcall' (by simp)]
  exact .pure .none

/-- Entry by entry, where the entries agree but for one key. -/
theorem relates_of_agreesBut (hR : Matching R) {key : String} {U V : Node → Node → Prop}
    {entries entries' : Entries Node} (h : entries.AgreesBut key U entries')
    (hU : ∀ a b, U a b → Relates R V (resolve fuel budget a) (resolve fuel budget b)) :
    List.Forall₂ (fun a b => a.1 = b.1 ∧ Relates R (fun c d => if a.1 = key then V c d else c = d)
      (resolve fuel budget a.2) (resolve fuel budget b.2)) entries entries' := by
  refine h.imp ?_
  rintro a b ⟨hkey, hvalue⟩
  refine ⟨hkey, ?_⟩
  split_ifs at hvalue ⊢
  · exact hU _ _ hvalue
  · exact hvalue ▸ resolve_relates hR _ _ _

/-- Mappings that agree but for what is under one key, which names no function, are resolved to
    mappings that agree so. -/
theorem resolve_agreesBut_relates (hR : Matching R) {key : String} {U V : Node → Node → Prop}
    {entries entries' : Entries Node} (hname : Intrinsic.ofName? key = none)
    (hmem : key ∈ entries.keys) (h : entries.AgreesBut key U entries')
    (hs : budget.spent = false)
    (hU : ∀ a b, U a b →
      Relates R V (resolve fuel budget.deeper a) (resolve fuel budget.deeper b)) :
    Relates R (OnEntries fun values values' => values.keys = entries.keys ∧
        values.AgreesBut key V values')
      (resolve (fuel + 1) budget (.map entries)) (resolve (fuel + 1) budget (.map entries')) :=
  resolve_keyed_relates (V := fun other a b => if other = key then V a b else a = b) hR hname hmem
    hs (relates_of_agreesBut hR h hU)

/-- Sequences are resolved to sequences. -/
theorem resolve_seq_relates (hR : Comparable R) {W : List Node → List Node → Prop}
    {items items' : List Node} (hspent : budget.spent = true → W items items')
    (hitems : budget.spent = false → Relates R W
      (items.mapM (resolve fuel budget.deeper)) (items'.mapM (resolve fuel budget.deeper))) :
    Relates R (OnItems W)
      (resolve (fuel + 1) budget (.seq items)) (resolve (fuel + 1) budget (.seq items')) := by
  have hexpand (items : List Node) (s : Session) :
      expand fuel budget (.seq items) s = some (none, s) := rfl
  intro s t value s' hst hx
  cases resolved_of_resolve hx with
  | spent hs =>
    exact ⟨_, _, resolve_of_resolved (.spent hs), ⟨_, _, rfl, rfl, hspent hs⟩, hR.note _ _ _ hst⟩
  | expanded _ hsome _ => exact nomatch hsome
  | seq hs hnone hvalues =>
    cases hnone
    obtain ⟨values', t', hvalues', hW, hnoted⟩ := hitems hs _ _ _ _ hst hvalues
    exact ⟨_, t', resolve_of_resolved (.seq hs (hexpand _ _) hvalues'), ⟨_, _, rfl, rfl, hW⟩,
      hnoted⟩
  | leaf _ _ hseq _ => exact nomatch hseq

/-! ### Single values -/

/-- Resolving a single value gives one, and does nothing but note how deep it is. -/
theorem resolve_scalar {node : Node} {s : Session} (h : node.IsScalar)
    (hf : budget.remaining < fuel) :
    ∃ value t, resolve fuel budget node s = some (value, t) ∧ value.IsScalar ∧ s.Noted t := by
  induction fuel generalizing budget node with
  | zero => omega
  | succ fuel ih =>
    cases hs : budget.spent with
    | true => exact ⟨node, _, resolve_of_resolved (.spent hs), h, rfl⟩
    | false =>
      have hrest := Budget.remaining_deeper_lt hs hf
      -- Only a text can be expanded, to a text.
      have hexpand : expand fuel budget node s = some (none, s) ∨
          ∃ text, expand fuel budget node s = some (some (.str text), s) := by
        cases node with
        | str text =>
          rw [expand, Intrinsic.expand_str_apply]
          split_ifs
          · exact .inl rfl
          · exact .inr ⟨_, rfl⟩
        | seq items => exact h.elim
        | map entries => exact h.elim
        | _ => exact .inl rfl
      rcases hexpand with hnone | ⟨text, hsome⟩
      · have hleaf : Resolved fuel budget s node node s :=
          .leaf hs hnone h.seq?_eq_none h.entries?_eq_none
        exact ⟨node, s, resolve_of_resolved hleaf, h, .refl s⟩
      · obtain ⟨value, t, hvalue, hscalar, hnoted⟩ := @ih budget.deeper (.str text) trivial hrest
        exact ⟨value, t, resolve_of_resolved (.expanded hs hsome hvalue), hscalar, hnoted⟩

/-- Of different trees, each of which is resolved to a result of its kind and only noted of. -/
theorem relates_of_noted (hB : Session.Blind R) {a b : Node} {V V' : Node → Prop}
    (ha : ∀ s t, R s t → ∃ value s', resolve fuel budget a s = some (value, s') ∧ V value ∧
      s.Noted s')
    (hb : ∀ s t, R s t → ∃ value t', resolve fuel budget b t = some (value, t') ∧ V' value ∧
      t.Noted t') :
    Relates R (fun value value' => V value ∧ V' value')
      (resolve fuel budget a) (resolve fuel budget b) := by
  intro s t value s' hst hx
  obtain ⟨_, _, hvalue, hV, hnoted⟩ := ha s t hst
  obtain ⟨value', t', hvalue', hV', hnoted'⟩ := hb s t hst
  cases hvalue.symm.trans hx
  exact ⟨value', t', hvalue', ⟨hV, hV'⟩, hB _ _ _ _ hst hnoted hnoted'⟩

theorem resolve_scalar_relates (hB : Session.Blind R) {a b : Node} (ha : a.IsScalar)
    (hb : b.IsScalar) (hf : budget.remaining < fuel) :
    Relates R (fun value value' => value.IsScalar ∧ value'.IsScalar)
      (resolve fuel budget a) (resolve fuel budget b) :=
  relates_of_noted hB (fun _ _ _ => resolve_scalar ha hf) fun _ _ _ => resolve_scalar hb hf

/-! ### Sections -/

/-- No function makes anything of a mapping but a single value. -/
theorem apply_relates_of_map (hR : Matching R) {W : Entries Node → Entries Node → Prop}
    {entries entries' : Entries Node} (holds : String → Evaluation Bool) (function : Intrinsic)
    (h : Relates R (OnEntries W) (resolve fuel budget (.map entries))
      (resolve fuel budget (.map entries'))) :
    Relates R (Option.Rel fun value value' => value.IsScalar ∧ value'.IsScalar)
      (Intrinsic.apply (resolve fuel budget) holds function (.map entries))
      (Intrinsic.apply (resolve fuel budget) holds function (.map entries')) := by
  cases function with
  | ref =>
    refine h.bind ?_
    rintro _ _ ⟨values, values', rfl, rfl, -⟩
    exact .decline hR.toComparable _
  | importValue =>
    have htext : Relates R (fun _ _ => True) (Intrinsic.resolveText (resolve fuel budget)
        (.map entries)) (Intrinsic.resolveText (resolve fuel budget) (.map entries')) :=
      h.bind fun _ _ _ => .pure trivial
    exact htext.bind fun _ _ _ => .pure (.some ⟨trivial, trivial⟩)
  | _ => exact .decline hR.toComparable _

variable {W : Entries Node → Entries Node → Prop} {entries entries' : Entries Node}

/-- A section with a single entry is a call if this has the name of a function. -/
theorem expand_section_relates (hR : Matching R) (hkeys : entries.keys = entries'.keys)
    (hcall : ∀ name a b, entries = [(name, a)] → entries' = [(name, b)] →
      OnEntries (fun _ _ => True) a b ∧ Relates R (OnEntries fun _ _ => True)
        (resolve fuel budget.deeper a) (resolve fuel budget.deeper b)) :
    Relates R (Option.Rel fun value value' => value.IsScalar ∧ value'.IsScalar)
      (expand fuel budget (.map entries)) (expand fuel budget (.map entries')) := by
  rw [expand, expand]
  rcases hfunction : (Node.map entries).intrinsic? with _ | ⟨function, a⟩
  · rw [Intrinsic.expand_of_intrinsic?_eq_none hfunction (by simp),
      Intrinsic.expand_of_intrinsic?_eq_none
        (Node.intrinsic?_map_eq_none hkeys.symm hfunction) (by simp)]
    exact .pure .none
  · -- The only entry has a function's name, and its value is the operand.
    obtain rfl := Node.map.inj (Node.intrinsic?_eq_some_iff.1 hfunction)
    obtain ⟨⟨name, b⟩, rfl, hname⟩ := List.map_eq_singleton_iff.1 hkeys.symm
    obtain rfl : name = function.name := hname
    have hfunction' : (Node.map [(function.name, b)]).intrinsic? = some (function, b) :=
      Node.intrinsic?_eq_some_iff.2 rfl
    rw [Intrinsic.expand_of_intrinsic? hfunction, Intrinsic.expand_of_intrinsic? hfunction']
    obtain ⟨⟨values, values', rfl, rfl, -⟩, hoperand⟩ := hcall _ _ _ rfl rfl
    exact apply_relates_of_map hR _ function hoperand

/-- A section is resolved to a single value, if it is a call, or else entry by entry. -/
theorem resolve_section_relates (hR : Matching R) (hB : Session.Blind R)
    (hs : budget.spent = false) (hf : budget.remaining < fuel + 1)
    (hkeys : entries.keys = entries'.keys)
    (hcall : ∀ name a b, entries = [(name, a)] → entries' = [(name, b)] →
      OnEntries (fun _ _ => True) a b ∧ Relates R (OnEntries fun _ _ => True)
        (resolve fuel budget.deeper a) (resolve fuel budget.deeper b))
    (hentries : Relates R W
      (entries.mapM (m := Evaluation)
        fun (key, value) => do return (key, ← resolve fuel budget.deeper value))
      (entries'.mapM (m := Evaluation)
        fun (key, value) => do return (key, ← resolve fuel budget.deeper value))) :
    Relates R (fun a b => (a.IsScalar ∧ b.IsScalar) ∨ OnEntries W a b)
      (resolve (fuel + 1) budget (.map entries)) (resolve (fuel + 1) budget (.map entries')) := by
  refine resolve_map_relates hR.toComparable
    (fun hspent => absurd (hspent.symm.trans hs) (by decide))
    (fun _ => expand_section_relates hR hkeys hcall) (fun _ a b hab => ?_)
    fun _ => hentries.imp fun _ _ hW => .inr ⟨_, _, rfl, rfl, hW⟩
  exact (resolve_scalar_relates hB hab.1 hab.2 (Budget.remaining_deeper_lt hs hf)).imp
    fun _ _ => .inl

end Resolution

end SamTemplate
