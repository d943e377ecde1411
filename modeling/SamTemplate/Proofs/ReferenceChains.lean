import SamTemplate.Proofs.Collected
import SamTemplate.Proofs.Cycles
import SamTemplate.Proofs.History
import SamTemplate.Proofs.MalformedCalls
import SamTemplate.Proofs.QuotedText
import SamTemplate.Proofs.Reordering

/-!
# Conditions that only refer to each other

Where every condition is a truth value or refers to another condition by name
(`Condition.ReferencesOnly`), deciding one follows the references up to a truth value, to a
condition that is decided already or to one that is being decided (`Follows`).

* `Condition.followed_ofName`: what following the references from a name does to a session;
* `Session.decideNamed_referencesOnly`: after any conditions have been asked for by name, a
  condition holds if its references end in `true`, whatever was asked for before, and each
  cycle that was come to is reported once, by the member that was entered first.
-/

namespace SamTemplate

open Relation StateTransition

namespace Condition

/-- The condition that the condition of a name refers to. -/
def next? (conditions : Entries Node) (name : String) : Option String :=
  match conditions.get? name with
  | some (.map [(key, operand)]) => if key = Form.named.name then some operand.text else none
  | _ => none

/-- Every condition is a truth value or refers to a condition of the section. -/
def ReferencesOnly (conditions : Entries Node) : Prop :=
  ∀ pair ∈ conditions, (∃ value, pair.2 = .bool value) ∨
    ∃ operand, pair.2 = .call Form.named.name operand ∧ operand.text ∈ conditions.keys

/-- The references from a name end in `true`. -/
def EndsInTrue (conditions : Entries Node) (name : String) : Prop :=
  ∃ last, Reaches (next? conditions) name last ∧ conditions.get? last = some (.bool true)

variable {conditions : Entries Node} {name other m : String} {expression : Node}

/-! ### References of a section -/

theorem next?_of_bool {value : Bool} (h : conditions.get? name = some (.bool value)) :
    next? conditions name = none := by
  rw [next?, h]

theorem next?_of_call {operand : Node}
    (h : conditions.get? name = some (.call Form.named.name operand)) :
    next? conditions name = some operand.text := by
  rw [next?, h]
  exact if_pos rfl

theorem mem_keys_of_next? (h : next? conditions name = some other) : name ∈ conditions.keys := by
  rw [next?] at h
  split at h
  · exact Entries.mem_keys_of_get? ‹_›
  · exact nomatch h

/-- The two kinds of conditions of such a section. -/
theorem ReferencesOnly.cases (h : ReferencesOnly conditions)
    (hc : conditions.get? name = some expression) :
    (∃ value, expression = .bool value ∧ next? conditions name = none) ∨
      ∃ operand, expression = .call Form.named.name operand ∧ operand.text ∈ conditions.keys ∧
        next? conditions name = some operand.text := by
  rcases h _ (Entries.mem_of_get? hc) with ⟨value, rfl⟩ | ⟨operand, rfl, hkey⟩
  · exact .inl ⟨value, rfl, next?_of_bool hc⟩
  · exact .inr ⟨operand, rfl, hkey, next?_of_call hc⟩

theorem ReferencesOnly.mem_keys_of_reaches (h : ReferencesOnly conditions)
    (hname : name ∈ conditions.keys) (hm : Reaches (next? conditions) name m) :
    m ∈ conditions.keys := by
  induction hm with
  | refl => exact hname
  | @tail b c _ hstep _ =>
    cases hb : conditions.get? b with
    | none => exact absurd (mem_keys_of_next? hstep) (Entries.get?_eq_none_iff.1 hb)
    | some expression =>
      rcases h.cases hb with ⟨_, _, hnone⟩ | ⟨operand, _, hkey, hnext⟩
      · exact nomatch hnone.symm.trans hstep
      · exact Option.some.inj (hnext.symm.trans hstep) ▸ hkey

theorem endsInTrue_iff_of_next? (h : next? conditions name = some other) :
    EndsInTrue conditions name ↔ EndsInTrue conditions other := by
  constructor
  · rintro ⟨last, hreach, htrue⟩
    rcases ReflTransGen.cases_head hreach with rfl | ⟨b, hb, hrest⟩
    · exact nomatch (next?_of_bool htrue).symm.trans h
    · exact ⟨last, Option.some.inj (hb.symm.trans h) ▸ hrest, htrue⟩
  · rintro ⟨last, hreach, htrue⟩
    exact ⟨last, ReflTransGen.head h hreach, htrue⟩

theorem endsInTrue_iff_of_next?_none (h : next? conditions name = none) :
    EndsInTrue conditions name ↔ conditions.get? name = some (.bool true) := by
  constructor
  · rintro ⟨last, hreach, htrue⟩
    exact eq_of_reaches_of_none h hreach ▸ htrue
  · exact fun htrue => ⟨name, ReflTransGen.refl, htrue⟩

/-- References that come to a cycle end in nothing. -/
theorem not_endsInTrue_of_onCycle (h : OnCycle (next? conditions) m)
    (hm : Reaches (next? conditions) name m) : ¬ EndsInTrue conditions name := by
  rintro ⟨last, hreach, htrue⟩
  have hlast := next?_of_bool htrue
  obtain rfl := eq_of_reaches_of_none hlast (h.reaches_of_common hreach hm)
  obtain ⟨_, hnext⟩ := h.exists_next
  exact nomatch hlast.symm.trans hnext

/-! ### Following references -/

/-- The condition of a name has been decided. -/
def Known (s : Session) (name : String) : Prop := (s.decided.get? name).isSome

/-- What is decided is decided rightly. -/
def Right (conditions : Entries Node) (s : Session) : Prop :=
  ∀ name value, s.decided.get? name = some value → (value = true ↔ EndsInTrue conditions name)

/-- A session in which the references from some names are followed, and have come to `name`. -/
structure Follows (conditions : Entries Node) (name : String) (s : Session) : Prop where
  conditions_eq : s.conditions = conditions
  right : Right conditions s
  /-- What a decided condition refers to is decided. -/
  closed : ∀ a b, Known s a → next? conditions a = some b → Known s b
  /-- The names that are being decided lead to the name, and are not decided. -/
  leads : ∀ a ∈ s.pending, Reaches₁ (next? conditions) a name ∧ s.decided.get? a = none

/-- The notices after the references from `name` are followed. -/
inductive Reported (conditions : Entries Node) (name : String) (s : Session) : Warnings → Prop
  /-- Every cycle that they come to has been come to before. -/
  | silent : (∀ m, OnCycle (next? conditions) m → Reaches (next? conditions) name m → Known s m) →
      Reported conditions name s s.warnings
  /-- They come back to a name that is being decided. -/
  | back {m : String} : Returns (next? conditions) s.pending m name →
      Reported conditions name s (s.note (.conditionCircular m)).warnings
  /-- They enter a cycle that has not been come to before. -/
  | entered {m : String} : Enters (next? conditions) m name → ¬ Known s m →
      (∀ a ∈ s.pending, ¬ Reaches (next? conditions) m a) →
      Reported conditions name s (s.note (.conditionCircular m)).warnings

/-- What following the references from `name` does to a session. -/
structure Followed (conditions : Entries Node) (name : String) (s : Session) (value : Bool)
    (t : Session) : Prop where
  value_iff : value = true ↔ EndsInTrue conditions name
  right : Right conditions t
  /-- The name is decided, unless it is still being decided. -/
  known : Known t name ∨ name ∈ s.pending
  closed : ∀ a b, Known t a → next? conditions a = some b → Known t b ∨ b ∈ s.pending
  /-- Only what the references come to is decided on the way. -/
  origin : ∀ a, Known t a → Known s a ∨ Reaches (next? conditions) name a
  reported : Reported conditions name s t.warnings

variable {s t u : Session} {value : Bool}

theorem known_leave : Known (u.leave name value) m ↔ m = name ∨ Known u m := by
  simp only [Known, Session.leave, Bindings.get?_insert]
  split
  · simp [*]
  · rename_i hne
    simp [Ne.symm hne]

theorem Right.leave (h : Right conditions u) (hv : value = true ↔ EndsInTrue conditions name) :
    Right conditions (u.leave name value) := by
  intro m value' hm
  simp only [Session.leave, Bindings.get?_insert] at hm
  split at hm
  · rename_i heq
    cases hm
    exact heq ▸ hv
  · exact h m value' hm

namespace Follows

/-- What the references from a decided name come to is decided. -/
theorem known_of_reaches (h : Follows conditions name s) (ha : Known s other)
    (hm : Reaches (next? conditions) other m) : Known s m := by
  induction hm with
  | refl => exact ha
  | tail _ hstep ih => exact h.closed _ _ ih hstep

/-- The references are followed from the name to the next one. -/
theorem enter (h : Follows conditions name s) (hd : s.decided.get? name = none)
    (hnext : next? conditions name = some other) : Follows conditions other (s.enter name) where
  conditions_eq := h.conditions_eq
  right := h.right
  closed := h.closed
  leads a ha := by
    rcases List.mem_cons.1 ha with rfl | ha
    · exact ⟨TransGen.single hnext, hd⟩
    · exact ⟨TransGen.tail (h.leads a ha).1 hnext, (h.leads a ha).2⟩

theorem followed_known (h : Follows conditions name s) (hd : s.decided.get? name = some value) :
    Followed conditions name s value s where
  value_iff := h.right name value hd
  right := h.right
  known := .inl (by rw [Known, hd]; rfl)
  closed a b ha hb := .inl (h.closed a b ha hb)
  origin _ ha := .inl ha
  reported := .silent fun _ _ hm => h.known_of_reaches (by rw [Known, hd]; rfl) hm

theorem followed_back (h : Follows conditions name s) (hp : name ∈ s.pending) :
    Followed conditions name s false (s.note (.conditionCircular name)) where
  value_iff := by
    have hcycle : OnCycle (next? conditions) name := (h.leads name hp).1
    simpa using not_endsInTrue_of_onCycle hcycle ReflTransGen.refl
  right := h.right
  known := .inr hp
  closed a b ha hb := .inl (h.closed a b ha hb)
  origin _ ha := .inl ha
  reported := .back (.here hp)

theorem followed_bool (h : Follows conditions name s)
    (hc : s.conditions.get? name = some (.bool value)) :
    Followed conditions name s value ((s.enter name).leave name value) := by
  rw [h.conditions_eq] at hc
  have hnone := next?_of_bool hc
  have hv : value = true ↔ EndsInTrue conditions name := by
    rw [endsInTrue_iff_of_next?_none hnone, hc]
    simp
  refine ⟨hv, Right.leave h.right hv, .inl (known_leave.2 (.inl rfl)), fun a b ha hb => .inl ?_,
    fun a ha => ?_, .silent fun m hm hreach => ?_⟩
  · rcases known_leave.1 ha with rfl | ha
    · exact nomatch hnone.symm.trans hb
    · exact known_leave.2 (.inr (h.closed a b ha hb))
  · rcases known_leave.1 ha with rfl | ha
    · exact .inr ReflTransGen.refl
    · exact .inl ha
  · obtain rfl := eq_of_reaches_of_none hnone hreach
    obtain ⟨_, hnext⟩ := hm.exists_next
    exact nomatch hnone.symm.trans hnext

/-- The notices of the references from a name are those of the references from the next. -/
theorem reported_enter (h : Follows conditions name s) (hd : s.decided.get? name = none)
    (hp : name ∉ s.pending) (hnext : next? conditions name = some other) {warnings : Warnings}
    (hr : Reported conditions other (s.enter name) warnings) :
    Reported conditions name s warnings := by
  have hunknown : ¬ Known s name := by
    rw [Known, hd]
    exact nofun
  cases hr with
  | silent hall =>
    refine .silent fun m hm hreach => ?_
    rcases ReflTransGen.cases_head hreach with rfl | ⟨b, hb, hrest⟩
    · exact hall name hm (reaches₁_fwd hm hnext)
    · exact hall m hm (Option.some.inj (hb.symm.trans hnext) ▸ hrest)
  | @back m hreturns =>
    rcases List.mem_cons.1 hreturns.mem with rfl | hmem
    · -- The references come back to the name itself, so it is on a cycle, and the first one.
      exact .entered (.here (TransGen.head' hnext hreturns.reaches)) hunknown
        (hreturns.not_reaches hnext hp)
    · exact .back (.later hp hnext (hreturns.subset (List.subset_cons_self _ _) hmem))
  | @entered m henters hm hnone =>
    have hcycle : ¬ OnCycle (next? conditions) name := fun hname =>
      hnone name List.mem_cons_self
        (hname.reaches_of_reaches (ReflTransGen.head hnext henters.reaches))
    exact .entered (.later hcycle hnext henters) hm fun a ha =>
      hnone a (List.mem_cons_of_mem _ ha)

/-- A name is decided when the references from the next one have been followed. -/
theorem followed_leave (h : Follows conditions name s) (hd : s.decided.get? name = none)
    (hp : name ∉ s.pending) (hnext : next? conditions name = some other)
    (hf : Followed conditions other (s.enter name) value u) :
    Followed conditions name s value (u.leave name value) where
  value_iff := hf.value_iff.trans (endsInTrue_iff_of_next? hnext).symm
  right := Right.leave hf.right (hf.value_iff.trans (endsInTrue_iff_of_next? hnext).symm)
  known := .inl (known_leave.2 (.inl rfl))
  closed a b ha hb := by
    -- What was left open below is either the name, which is decided now, or open here, too.
    have hto : Known u b ∨ b ∈ name :: s.pending := by
      rcases known_leave.1 ha with rfl | ha
      · exact Option.some.inj (hnext.symm.trans hb) ▸ hf.known
      · exact hf.closed a b ha hb
    rcases hto with hb | hb
    · exact .inl (known_leave.2 (.inr hb))
    · exact (List.mem_cons.1 hb).imp_left fun heq => known_leave.2 (.inl heq)
  origin a ha := by
    rcases known_leave.1 ha with rfl | ha
    · exact .inr ReflTransGen.refl
    · exact (hf.origin a ha).imp_right (ReflTransGen.head hnext)
  reported := h.reported_enter hd hp hnext hf.reported

end Follows

/-- Deciding the condition of a name follows the references from it. The induction is on the
    fuel; each reference takes one level. -/
theorem followed_ofName (hsection : ReferencesOnly conditions) {fuel : Nat}
    (h : Follows conditions name s) (hname : name ∈ conditions.keys)
    (hrun : ofName (Resolution.decide fuel) name s = some (value, t)) :
    Followed conditions name s value t := by
  induction fuel using Nat.strongRecOn generalizing name s value t with
  | _ fuel ih =>
    cases asked_of_ofName hrun with
    | decided hd => exact h.followed_known hd
    | unknown _ hc => exact absurd hname (Entries.get?_eq_none_iff.1 (h.conditions_eq ▸ hc))
    | circular _ _ hp => exact h.followed_back hp
    | decide hd hc hp hu =>
      obtain _ | fuel := fuel
      · exact nomatch hu
      · rcases hsection.cases (h.conditions_eq ▸ hc) with
          ⟨truth, rfl, -⟩ | ⟨operand, rfl, hkey, hnext⟩
        · cases hu
          exact h.followed_bool hc
        · rw [Resolution.decide, decideStep, if_neg (by decide), ofNode_call] at hu
          exact h.followed_leave hd hp hnext (ih fuel (by omega) (h.enter hd hnext) hkey hu)

end Condition

/-! ### Asking for conditions by name -/

namespace Session

open Condition

variable {conditions : Entries Node} {names : List String} {name m : String} {s : Session}

/-- A message that tells of a cycle that the references from some names have entered, or of a
    name without a condition. -/
def Tells (conditions : Entries Node) (names : List String) (message : String) : Prop :=
  (∃ m, FirstEntered (next? conditions) m names ∧
    message = (Notice.conditionCircular m).message) ∨
  ∃ name ∈ names, name ∉ conditions.keys ∧ message = (Notice.conditionUnknown name).message

/-- A session in which the conditions of some names have been asked for. -/
structure Charts (conditions : Entries Node) (names : List String) (s : Session) : Prop where
  conditions_eq : s.conditions = conditions
  pending_eq : s.pending = []
  right : Right conditions s
  /-- What the names come to is decided. -/
  known_iff : ∀ a, Known s a ↔
    ∃ name ∈ names, name ∈ conditions.keys ∧ Reaches (next? conditions) name a
  mem_warnings : ∀ message, message ∈ s.warnings.messages ↔ Tells conditions names message

theorem charts_start (parameters : Parameters) (conditions : Entries Node) :
    Charts conditions [] (start parameters conditions) where
  conditions_eq := rfl
  pending_eq := rfl
  right _ _ h := nomatch h
  known_iff _ := ⟨fun h => (nomatch h), fun ⟨_, h, _⟩ => (nomatch h)⟩
  mem_warnings _ :=
    ⟨fun h => (nomatch h), fun h => h.elim (fun ⟨_, h, _⟩ => nomatch h) fun ⟨_, h, _⟩ => nomatch h⟩

namespace Charts

/-- A cycle has been come to if a member is decided. -/
theorem not_known_iff (h : Charts conditions names s) (hm : OnCycle (next? conditions) m) :
    ¬ Known s m ↔ ∀ name ∈ names, ¬ Reaches (next? conditions) name m := by
  rw [h.known_iff]
  constructor
  · rintro hnone name hmem hreach
    -- A name without a condition refers to nothing, and is on no cycle.
    rcases ReflTransGen.cases_head hreach with rfl | ⟨b, hb, -⟩
    · obtain ⟨b, hb⟩ := hm.exists_next
      exact hnone ⟨_, hmem, mem_keys_of_next? hb, hreach⟩
    · exact hnone ⟨name, hmem, mem_keys_of_next? hb, hreach⟩
  · rintro hnone ⟨name, hmem, -, hreach⟩
    exact hnone name hmem hreach

theorem follows (h : Charts conditions names s) (name : String) : Follows conditions name s where
  conditions_eq := h.conditions_eq
  right := h.right
  closed a b ha hb := by
    obtain ⟨name, hmem, hkey, hreach⟩ := (h.known_iff a).1 ha
    exact (h.known_iff b).2 ⟨name, hmem, hkey, ReflTransGen.tail hreach hb⟩
  leads a ha := by
    rw [h.pending_eq] at ha
    exact nomatch ha

theorem followed (h : Charts conditions names s) (hsection : ReferencesOnly conditions)
    (hname : name ∈ conditions.keys) :
    Followed conditions name s (s.decideNamed name).1 (s.decideNamed name).2 :=
  followed_ofName hsection (h.follows name) hname (s.decideNamed_spec name)

/-- A name of the section tells of the cycle that it is the first to enter. -/
theorem tells_append_of_mem (h : Charts conditions names s) (hname : name ∈ conditions.keys)
    {message : String} :
    Tells conditions (names ++ [name]) message ↔ Tells conditions names message ∨
      ∃ m, (Enters (next? conditions) m name ∧ ¬ Known s m) ∧
        message = (Notice.conditionCircular m).message := by
  constructor
  · rintro (⟨m, hfirst, rfl⟩ | ⟨other, hmem, hkey, rfl⟩)
    · rcases FirstEntered.append_singleton_iff.1 hfirst with hfirst | ⟨henters, hnone⟩
      · exact .inl (.inl ⟨m, hfirst, rfl⟩)
      · exact .inr ⟨m, ⟨henters, (h.not_known_iff henters.onCycle).2 hnone⟩, rfl⟩
    · rcases List.mem_append.1 hmem with hmem | hmem
      · exact .inl (.inr ⟨other, hmem, hkey, rfl⟩)
      · exact absurd (List.mem_singleton.1 hmem ▸ hname) hkey
  · rintro ((⟨m, hfirst, rfl⟩ | ⟨other, hmem, hkey, rfl⟩) | ⟨m, ⟨henters, hm⟩, rfl⟩)
    · exact .inl ⟨m, FirstEntered.append_singleton_iff.2 (.inl hfirst), rfl⟩
    · exact .inr ⟨other, List.mem_append_left _ hmem, hkey, rfl⟩
    · have hnone := (h.not_known_iff henters.onCycle).1 hm
      exact .inl ⟨m, FirstEntered.append_singleton_iff.2 (.inr ⟨henters, hnone⟩), rfl⟩

/-- Any other name tells that it has no condition. -/
theorem tells_append_of_not_mem (hname : name ∉ conditions.keys) {message : String} :
    Tells conditions (names ++ [name]) message ↔
      Tells conditions names message ∨ message = (Notice.conditionUnknown name).message := by
  constructor
  · rintro (⟨m, hfirst, rfl⟩ | ⟨other, hmem, hkey, rfl⟩)
    · rcases FirstEntered.append_singleton_iff.1 hfirst with hfirst | ⟨henters, -⟩
      · exact .inl (.inl ⟨m, hfirst, rfl⟩)
      · cases henters with
        | here hcycle => exact absurd (mem_keys_of_next? hcycle.exists_next.choose_spec) hname
        | later _ hnext _ => exact absurd (mem_keys_of_next? hnext) hname
    · rcases List.mem_append.1 hmem with hmem | hmem
      · exact .inl (.inr ⟨other, hmem, hkey, rfl⟩)
      · exact .inr (List.mem_singleton.1 hmem ▸ rfl)
  · rintro ((⟨m, hfirst, rfl⟩ | ⟨other, hmem, hkey, rfl⟩) | rfl)
    · exact .inl ⟨m, FirstEntered.append_singleton_iff.2 (.inl hfirst), rfl⟩
    · exact .inr ⟨other, List.mem_append_left _ hmem, hkey, rfl⟩
    · exact .inr ⟨name, List.mem_append_right _ List.mem_cons_self, hname, rfl⟩

/-- The notices when a condition of the section is asked for. -/
theorem mem_reported (h : Charts conditions names s) (hname : name ∈ conditions.keys)
    {warnings : Warnings} (hr : Reported conditions name s warnings) (message : String) :
    message ∈ warnings.messages ↔ Tells conditions (names ++ [name]) message := by
  rw [h.tells_append_of_mem hname, ← h.mem_warnings]
  cases hr with
  | silent hall =>
    refine (or_iff_left ?_).symm
    rintro ⟨m, ⟨henters, hm⟩, -⟩
    exact hm (hall m henters.onCycle henters.reaches)
  | back hreturns => exact nomatch h.pending_eq ▸ hreturns.mem
  | @entered m henters hm _ =>
    rw [note, Warnings.mem_add]
    refine or_congr_right ⟨fun heq => ⟨m, ⟨henters, hm⟩, heq⟩, ?_⟩
    rintro ⟨m', ⟨henters', -⟩, heq⟩
    exact henters.unique henters' ▸ heq

/-- A condition of the section is asked for. -/
theorem ask (h : Charts conditions names s) (hsection : ReferencesOnly conditions)
    (hname : name ∈ conditions.keys) :
    Charts conditions (names ++ [name]) (s.decideNamed name).2 := by
  have hf := h.followed hsection hname
  have hgrows := ofName_grows ((Resolution.grows _).2 {}) name _ _ _ (s.decideNamed_spec name)
  -- Nothing was being decided before, so that nothing that is come to stays open.
  have hpending {a : String} : a ∉ s.pending := by simp [h.pending_eq]
  have hreached {a : String} (ha : Reaches (next? conditions) name a) :
      Known (s.decideNamed name).2 a := by
    induction ha with
    | refl => exact hf.known.resolve_right hpending
    | tail _ hstep ih => exact (hf.closed _ _ ih hstep).resolve_right hpending
  refine ⟨hgrows.conditions.trans h.conditions_eq, hgrows.pending.trans h.pending_eq, hf.right,
    fun a => ⟨fun ha => ?_, ?_⟩, h.mem_reported hname hf.reported⟩
  · rcases hf.origin a ha with ha | ha
    · obtain ⟨other, hmem, hkey, hreach⟩ := (h.known_iff a).1 ha
      exact ⟨other, List.mem_append_left _ hmem, hkey, hreach⟩
    · exact ⟨name, List.mem_append_right _ List.mem_cons_self, hname, ha⟩
  · rintro ⟨other, hmem, hkey, hreach⟩
    rcases List.mem_append.1 hmem with hmem | hmem
    · obtain ⟨value, hvalue⟩ :=
        Option.isSome_iff_exists.1 ((h.known_iff a).2 ⟨other, hmem, hkey, hreach⟩)
      exact Option.isSome_of_eq_some (hgrows.decided a value hvalue)
    · exact hreached (List.mem_singleton.1 hmem ▸ hreach)

/-- A name without a condition is unknown. -/
theorem decideNamed_eq (h : Charts conditions names s) (hsection : ReferencesOnly conditions)
    (hname : name ∉ conditions.keys) :
    s.decideNamed name = (false, s.note (.conditionUnknown name)) := by
  -- All that is decided lies on the references from a condition of the section.
  have hd : s.decided.get? name = none := by
    by_contra hne
    obtain ⟨other, _, hkey, hreach⟩ := (h.known_iff name).1 (Option.isSome_iff_ne_none.2 hne)
    exact hname (hsection.mem_keys_of_reaches hkey hreach)
  have hc : s.conditions.get? name = none := by
    rw [h.conditions_eq]
    exact Entries.get?_eq_none_iff.2 hname
  exact Option.some.inj ((s.decideNamed_spec name).symm.trans (ofName_apply_of_unknown hd hc))

/-- A name without a condition is asked for. -/
theorem ask_unknown (h : Charts conditions names s) (hname : name ∉ conditions.keys) :
    Charts conditions (names ++ [name]) (s.note (.conditionUnknown name)) where
  conditions_eq := h.conditions_eq
  pending_eq := h.pending_eq
  right := h.right
  known_iff a := by
    refine (h.known_iff a).trans ⟨?_, ?_⟩
    · rintro ⟨other, hmem, hkey, hreach⟩
      exact ⟨other, List.mem_append_left _ hmem, hkey, hreach⟩
    · rintro ⟨other, hmem, hkey, hreach⟩
      rcases List.mem_append.1 hmem with hmem | hmem
      · exact ⟨other, hmem, hkey, hreach⟩
      · exact absurd (List.mem_singleton.1 hmem ▸ hkey) hname
  mem_warnings message := by
    rw [note, Warnings.mem_add, h.mem_warnings, tells_append_of_not_mem hname]

end Charts

/-- What a session that was asked for conditions of a section by name has come to. -/
theorem charts_after (hsection : ReferencesOnly conditions) (parameters : Parameters)
    (names : List String) :
    Charts conditions names ((start parameters conditions).after
      (names.map fun name => .ask (.decideNamed name))) := by
  induction names using List.reverseRecOn with
  | nil => exact charts_start parameters conditions
  | append_singleton names name ih =>
    rw [after, List.map_append, List.foldl_append]
    change Charts conditions (names ++ [name]) (Session.decideNamed (Session.after _ _) name).2
    by_cases hname : name ∈ conditions.keys
    · exact ih.ask hsection hname
    · rw [ih.decideNamed_eq hsection hname]
      exact ih.ask_unknown hname

/-- However often the conditions of a section have been asked for, and in whatever order: the
    condition of a name holds if and only if the references from it end in `true`, and so not
    if they lead into a cycle. The notices tell once of each cycle that was come to, by the
    member that was entered first, and of nothing else but the names that were asked for
    and have no condition. -/
theorem decideNamed_referencesOnly (hsection : ReferencesOnly conditions) (parameters : Parameters)
    (names : List String) :
    let s := (start parameters conditions).after (names.map fun name => .ask (.decideNamed name))
    (∀ name, (s.decideNamed name).1 = true ↔ EndsInTrue conditions name) ∧
    (∀ name m, OnCycle (next? conditions) m → Reaches (next? conditions) name m →
      (s.decideNamed name).1 = false) ∧
    (∀ a, OnCycle (next? conditions) a → (∃ name ∈ names, Reaches (next? conditions) name a) →
      ∃! message, message ∈ s.warnings.messages ∧ ∃ m, Reaches (next? conditions) a m ∧
        message = (Notice.conditionCircular m).message) ∧
    s.warnings.messages.Nodup ∧
    ∀ message, message ∈ s.warnings.messages ↔
      (∃ m, FirstEntered (next? conditions) m names ∧
        message = (Notice.conditionCircular m).message) ∨
      ∃ name ∈ names, name ∉ conditions.keys ∧
        message = (Notice.conditionUnknown name).message := by
  intro s
  have hcharts : Charts conditions names s := charts_after hsection parameters names
  have hvalue (name : String) : (s.decideNamed name).1 = true ↔ EndsInTrue conditions name := by
    by_cases hname : name ∈ conditions.keys
    · exact (hcharts.followed hsection hname).value_iff
    · have hnone := Entries.get?_eq_none_iff.2 hname
      have hends : ¬ EndsInTrue conditions name := by
        rw [endsInTrue_iff_of_next?_none (by rw [next?, hnone]), hnone]
        exact nofun
      simpa [hcharts.decideNamed_eq hsection hname] using hends
  refine ⟨hvalue, fun name m hm hreach => ?_, fun a ha hto => ?_, s.warnings.nodup,
    hcharts.mem_warnings⟩
  · exact Bool.eq_false_iff.2 fun htrue =>
      not_endsInTrue_of_onCycle hm hreach ((hvalue name).1 htrue)
  · obtain ⟨m, ⟨hfirst, hm⟩, hunique⟩ := existsUnique_firstEntered ha hto
    refine ⟨_, ⟨(hcharts.mem_warnings _).2 (.inl ⟨m, hfirst, rfl⟩), m, hm, rfl⟩, ?_⟩
    rintro _ ⟨hmem, m', hm', rfl⟩
    rcases (hcharts.mem_warnings _).1 hmem with ⟨m'', hfirst', heq⟩ | ⟨name, -, -, heq⟩
    · obtain rfl := Notice.conditionCircular_message_injective heq
      rw [hunique m' ⟨hfirst', hm'⟩]
    · exact absurd heq (Notice.conditionCircular_message_ne m' name)

/-- A section with a ring of two, a name that leads into it and one that leads to `true`. -/
def ringed : Entries Node :=
  [("Tail", .call "Condition" (.str "Left")), ("Left", .call "Condition" (.str "Right")),
    ("Right", .call "Condition" (.str "Left")), ("Alias", .call "Condition" (.str "Sure")),
    ("Sure", .bool true)]

/-- The ring is entered in its left member, whichever way it is come to later on. -/
theorem decideNamed_ringed :
    let s := (start .empty ringed).after
      (["Alias", "Tail", "Right"].map fun name => .ask (.decideNamed name))
    ReferencesOnly ringed ∧ EndsInTrue ringed "Alias" ∧ ¬ EndsInTrue ringed "Right" ∧
      s.warnings.messages = [(Notice.conditionCircular "Left").message] ∧
      FirstEntered (next? ringed) "Left" ["Alias", "Tail", "Right"] := by
  intro s
  have hsection : ReferencesOnly ringed := by
    intro pair hpair
    simp only [ringed, List.mem_cons, List.not_mem_nil, or_false] at hpair
    rcases hpair with rfl | rfl | rfl | rfl | rfl
    · exact .inr ⟨_, rfl, by decide⟩
    · exact .inr ⟨_, rfl, by decide⟩
    · exact .inr ⟨_, rfl, by decide⟩
    · exact .inr ⟨_, rfl, by decide⟩
    · exact .inl ⟨true, rfl⟩
  obtain ⟨hvalue, -, -, -, hmem⟩ :=
    decideNamed_referencesOnly hsection .empty ["Alias", "Tail", "Right"]
  have hmessages : s.warnings.messages = [(Notice.conditionCircular "Left").message] := rfl
  refine ⟨hsection, (hvalue "Alias").1 rfl, fun h => ?_, hmessages, ?_⟩
  · exact absurd ((hvalue "Right").2 h) (by decide)
  · have hleft := (hmem (Notice.conditionCircular "Left").message).1
      (hmessages ▸ List.mem_singleton.2 rfl)
    rcases hleft with ⟨m, hfirst, heq⟩ | ⟨name, -, -, heq⟩
    · exact Notice.conditionCircular_message_injective heq ▸ hfirst
    · exact absurd heq (Notice.conditionCircular_message_ne "Left" name)

end Session

end SamTemplate
