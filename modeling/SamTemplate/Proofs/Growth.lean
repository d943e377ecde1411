import SamTemplate.Proofs.Compositional

/-!
# Growth of sessions

What resolving and deciding do to a session: parameters, conditions and the
stack of pending conditions are the same afterwards, decided conditions stay as
they are, and notices are only added at the end (`Session.Grows`). What asking for
a condition can do (`Condition.Asked`) and what one level of resolving can do
(`Resolution.Resolved`) is said once, case by case.

A session that grows has no more undecided conditions than before, and a
condition that is being decided is not undecided any more. Hence the fuel that a
session brings along suffices, and its operations always answer
(`Session.resolveAt_spec`, `Session.expandAt_spec`, `Session.decideAt_spec`,
`Session.decideNamed_spec`).
-/

namespace SamTemplate

namespace Session

/-- A session and what it can have become by resolving and deciding. -/
structure Grows (before after : Session) : Prop where
  /-- The parameters are the same. -/
  parameters : after.parameters = before.parameters
  /-- The conditions are the same. -/
  conditions : after.conditions = before.conditions
  /-- What is being decided is the same. -/
  pending : after.pending = before.pending
  /-- What is decided stays decided. -/
  decided : ∀ name value, before.decided.get? name = some value →
    after.decided.get? name = some value
  /-- Notices come after the earlier ones. -/
  warnings : before.warnings.messages <+: after.warnings.messages

namespace Grows

variable {s t u : Session}

theorem refl (s : Session) : s.Grows s := ⟨rfl, rfl, rfl, fun _ _ h => h, List.prefix_rfl⟩

theorem trans (h : s.Grows t) (h' : t.Grows u) : s.Grows u where
  parameters := h'.parameters.trans h.parameters
  conditions := h'.conditions.trans h.conditions
  pending := h'.pending.trans h.pending
  decided name value hs := h'.decided name value (h.decided name value hs)
  warnings := h.warnings.trans h'.warnings

theorem note (s : Session) (notice : Notice) : s.Grows (s.note notice) :=
  ⟨rfl, rfl, rfl, fun _ _ h => h, Warnings.prefix_add _ _⟩

/-- A session has no notices if it has none later on. -/
theorem warnings_eq_empty (h : s.Grows t) (ht : t.warnings = .empty) : s.warnings = .empty := by
  have hp := h.warnings
  rw [ht] at hp
  obtain ⟨_, _, _, _, messages, _⟩ := s
  obtain rfl : messages = [] := List.prefix_nil.1 hp
  rfl

/-- Growing leaves no more conditions undecided. -/
theorem length_undecided_le (h : s.Grows t) : t.undecided.length ≤ s.undecided.length := by
  simp only [undecided, ← List.countP_eq_length_filter, h.conditions, h.pending]
  refine List.countP_mono_left fun name _ => ?_
  simp only [Bool.and_eq_true, Option.isNone_iff_eq_none]
  rintro ⟨ht, hp⟩
  refine ⟨?_, hp⟩
  cases hs : s.decided.get? name with
  | none => rfl
  | some value => rw [h.decided name value hs] at ht; exact absurd ht (by simp)

end Grows

/-- Begins to decide a condition. -/
def enter (session : Session) (name : String) : Session :=
  { session with pending := name :: session.pending }

/-- Ends deciding a condition with its value. -/
def leave (session : Session) (name : String) (value : Bool) : Session :=
  { session with
    pending := session.pending.erase name
    decided := session.decided.insert name value }

/-- A condition that is being decided is not undecided any more. -/
theorem length_undecided_enter_lt {s : Session} {name : String} {expression : Node}
    (hd : s.decided.get? name = none) (hc : s.conditions.get? name = some expression)
    (hp : name ∉ s.pending) : (s.enter name).undecided.length < s.undecided.length := by
  have hmem : name ∈ s.undecided := by
    simp [undecided, hd, hp, Entries.mem_keys_of_get? hc]
  have heq : (s.enter name).undecided = s.undecided.filter (· ≠ name) := by
    simp only [undecided, enter, List.filter_filter]
    refine List.filter_congr fun other _ => ?_
    by_cases ho : other = name <;> simp [ho]
  rw [heq]
  exact List.length_filter_lt_length_iff_exists.2 ⟨name, hmem, by simp⟩

/-- A session of the template with these parameters and conditions. -/
structure Serves (parameters : Parameters) (conditions : Entries Node) (session : Session) :
    Prop where
  /-- The parameters are those of the template. -/
  parameters_eq : session.parameters = parameters
  /-- The conditions are those of the template. -/
  conditions_eq : session.conditions = conditions

theorem serves_start (parameters : Parameters) (conditions : Entries Node) :
    (start parameters conditions).Serves parameters conditions :=
  ⟨rfl, rfl⟩

theorem Serves.same_conditions {parameters : Parameters} {conditions : Entries Node} {s t : Session}
    (hs : s.Serves parameters conditions) (ht : t.Serves parameters conditions) :
    s.conditions = t.conditions :=
  hs.conditions_eq.trans ht.conditions_eq.symm

theorem Grows.serves {parameters : Parameters} {conditions : Entries Node} {s t : Session}
    (h : s.Grows t) (hs : s.Serves parameters conditions) : t.Serves parameters conditions :=
  ⟨h.parameters.trans hs.parameters_eq, h.conditions.trans hs.conditions_eq⟩

/-- A session of a template in which the decided conditions have their values by
    right: `P` says which values a name may have. -/
structure Recalls (parameters : Parameters) (conditions : Entries Node)
    (P : String → Bool → Prop) (session : Session) : Prop
    extends session.Serves parameters conditions where
  decided : ∀ name value, session.decided.get? name = some value → P name value

namespace Recalls

variable {parameters : Parameters} {conditions : Entries Node} {P : String → Bool → Prop}
  {s : Session}

theorem start : (Session.start parameters conditions).Recalls parameters conditions P :=
  ⟨serves_start parameters conditions, fun _ _ h => nomatch h⟩

theorem note (h : s.Recalls parameters conditions P) (notice : Notice) :
    (s.note notice).Recalls parameters conditions P :=
  ⟨(Grows.note s notice).serves h.toServes, h.decided⟩

theorem enter (h : s.Recalls parameters conditions P) (name : String) :
    (s.enter name).Recalls parameters conditions P :=
  ⟨⟨h.parameters_eq, h.conditions_eq⟩, h.decided⟩

theorem leave (h : s.Recalls parameters conditions P) {name : String} {value : Bool}
    (hv : P name value) : (s.leave name value).Recalls parameters conditions P := by
  refine ⟨⟨h.parameters_eq, h.conditions_eq⟩, fun other value' hd => ?_⟩
  simp only [Session.leave, Bindings.get?_insert] at hd
  split at hd
  · rename_i heq
    subst heq
    cases hd
    exact hv
  · exact h.decided other value' hd

end Recalls

/-- A session that grows between entering and leaving a condition grows. -/
theorem grows_leave {s u : Session} {name : String} (hd : s.decided.get? name = none)
    (h : (s.enter name).Grows u) (value : Bool) : s.Grows (u.leave name value) where
  parameters := h.parameters
  conditions := h.conditions
  pending := by simp [leave, h.pending, enter]
  decided other value' hs := by
    have hne : name ≠ other := fun heq => by rw [← heq, hd] at hs; exact absurd hs (by simp)
    simpa [leave, Bindings.get?_insert, hne] using h.decided other value' hs
  warnings := h.warnings

end Session

namespace Condition

variable {decide : Budget → Node → Evaluation Bool} {name : String} {s t : Session} {value : Bool}

/-- What asking for the condition of a name can do. -/
inductive Asked (decide : Budget → Node → Evaluation Bool) (name : String) (s : Session) :
    Bool → Session → Prop
  /-- It was decided before. -/
  | decided {value : Bool} : s.decided.get? name = some value → Asked decide name s value s
  /-- No condition has this name. -/
  | unknown : s.decided.get? name = none → s.conditions.get? name = none →
      Asked decide name s false (s.note (.conditionUnknown name))
  /-- It is being decided. -/
  | circular {expression : Node} : s.decided.get? name = none →
      s.conditions.get? name = some expression → name ∈ s.pending →
      Asked decide name s false (s.note (.conditionCircular name))
  /-- It is decided now. -/
  | decide {expression : Node} {value : Bool} {u : Session} : s.decided.get? name = none →
      s.conditions.get? name = some expression → name ∉ s.pending →
      decide {} expression (s.enter name) = some (value, u) →
      Asked decide name s value (u.leave name value)

theorem ofName_apply_of_decided (h : s.decided.get? name = some value) :
    ofName decide name s = some (value, s) := by
  rw [ofName, Evaluation.get_bind_apply, h]
  rfl

theorem ofName_apply_of_unknown (hd : s.decided.get? name = none)
    (hc : s.conditions.get? name = none) :
    ofName decide name s = some (false, s.note (.conditionUnknown name)) := by
  rw [ofName, Evaluation.get_bind_apply, hd]
  simp only [hc]
  rfl

theorem ofName_apply_of_circular {expression : Node} (hd : s.decided.get? name = none)
    (hc : s.conditions.get? name = some expression) (hp : name ∈ s.pending) :
    ofName decide name s = some (false, s.note (.conditionCircular name)) := by
  rw [ofName, Evaluation.get_bind_apply, hd]
  simp only [hc, hp, if_true]
  rfl

/-- A condition that is not decided is decided between entering and leaving it. -/
theorem ofName_apply_of_undecided {expression : Node} (hd : s.decided.get? name = none)
    (hc : s.conditions.get? name = some expression) (hp : name ∉ s.pending) :
    ofName decide name s
      = (decide {} expression (s.enter name)).map fun r => (r.1, r.2.leave name r.1) := by
  rw [ofName, Evaluation.get_bind_apply, hd]
  simp only [hc, hp, if_false]
  rw [Evaluation.modify_bind_apply]
  change (decide {} expression (s.enter name)).bind _ = _
  cases decide {} expression (s.enter name) <;> rfl

/-- There is nothing else that asking for a condition can do. -/
theorem asked_of_ofName (h : ofName decide name s = some (value, t)) :
    Asked decide name s value t := by
  cases hd : s.decided.get? name with
  | some value' =>
    rw [ofName_apply_of_decided hd] at h
    cases h
    exact .decided hd
  | none =>
    cases hc : s.conditions.get? name with
    | none =>
      rw [ofName_apply_of_unknown hd hc] at h
      cases h
      exact .unknown hd hc
    | some expression =>
      by_cases hp : name ∈ s.pending
      · rw [ofName_apply_of_circular hd hc hp] at h
        cases h
        exact .circular hd hc hp
      · rw [ofName_apply_of_undecided hd hc hp, Option.map_eq_some_iff] at h
        obtain ⟨⟨value', u⟩, hu, heq⟩ := h
        cases heq
        exact .decide hd hc hp hu

end Condition

namespace Evaluation

variable {α β : Type}

/-- A computation lets its session grow. -/
def Grows (x : Evaluation α) : Prop := ∀ s a t, x s = some (a, t) → s.Grows t

theorem Grows.pure (a : α) : Grows (Pure.pure a) := by
  intro s b t h
  obtain ⟨-, rfl⟩ := pure_eq_some_iff.1 h
  exact .refl s

theorem Grows.bind {x : Evaluation α} {f : α → Evaluation β} (hx : Grows x)
    (hf : ∀ a, Grows (f a)) : Grows (x >>= f) := by
  intro s b t h
  obtain ⟨a, u, ha, hb⟩ := bind_eq_some_iff.1 h
  exact (hx s a u ha).trans (hf a u b t hb)

theorem Grows.note (notice : Notice) : Grows (Evaluation.note notice) := by
  intro s a t h
  cases h
  exact .note s notice

theorem Grows.read {f : Parameters → Evaluation α} (hf : ∀ parameters, Grows (f parameters)) :
    Grows (do f (← get).parameters) :=
  fun s a t h => hf s.parameters s a t h

/-- No run is left to grow where there is no fuel. -/
theorem Grows.outOfFuel : Grows (Evaluation.outOfFuel : Evaluation α) := fun _ _ _ h => nomatch h

theorem compositional_grows : CompositionalOne fun _ x => Grows x where
  pure := .pure
  bind := .bind
  note := .note
  read := .read

/-- A computation has a result in every session with so many undecided
    conditions or less, and lets its session grow. -/
def Answers (bound : Nat) (x : Evaluation α) : Prop :=
  Grows x ∧ ∀ s : Session, s.undecided.length ≤ bound → ∃ a t, x s = some (a, t)

theorem compositional_answers (bound : Nat) : CompositionalOne fun _ x => Answers bound x where
  pure a := ⟨.pure a, fun s _ => ⟨a, s, rfl⟩⟩
  bind hx hf := by
    refine ⟨.bind hx.1 fun a => (hf a).1, fun s hs => ?_⟩
    obtain ⟨a, u, ha⟩ := hx.2 s hs
    have hu := (hx.1 s a u ha).length_undecided_le
    obtain ⟨b, t, hb⟩ := (hf a).2 u (Nat.le_trans hu hs)
    exact ⟨b, t, bind_eq_some_iff.2 ⟨a, u, ha, hb⟩⟩
  note notice := ⟨.note notice, fun s _ => ⟨_, _, note_apply notice⟩⟩
  read hf := ⟨.read fun p => (hf p).1, fun s hs => (hf s.parameters).2 s hs⟩

end Evaluation

open Evaluation

namespace Condition

variable {decide : Budget → Node → Evaluation Bool}

theorem ofName_grows (hd : ∀ node, Evaluation.Grows (decide {} node)) (name : String) :
    Evaluation.Grows (ofName decide name) := by
  intro s value t h
  cases asked_of_ofName h with
  | decided => exact .refl s
  | unknown => exact .note s _
  | circular => exact .note s _
  | decide hn hc hp hu => exact Session.grows_leave hn (hd _ _ _ _ hu) value

theorem ofName_answers {bound : Nat} (hg : ∀ node, Evaluation.Grows (decide {} node))
    (hd : 0 < bound → ∀ node, Answers (bound - 1) (decide {} node)) (name : String) :
    Answers bound (ofName decide name) := by
  refine ⟨ofName_grows hg name, fun s hs => ?_⟩
  cases hn : s.decided.get? name with
  | some value => exact ⟨_, _, ofName_apply_of_decided hn⟩
  | none =>
    cases hc : s.conditions.get? name with
    | none => exact ⟨_, _, ofName_apply_of_unknown hn hc⟩
    | some expression =>
      by_cases hp : name ∈ s.pending
      · exact ⟨_, _, ofName_apply_of_circular hn hc hp⟩
      · -- The condition is undecided in `s` and not any more while it is decided.
        have hlt := Session.length_undecided_enter_lt hn hc hp
        obtain ⟨value, u, hu⟩ := (hd (by omega) expression).2 (s.enter name) (by omega)
        exact ⟨value, u.leave name value, by rw [ofName_apply_of_undecided hn hc hp, hu]; rfl⟩

end Condition

namespace Resolution

/-! ### Resolving and deciding -/

/-- What resolving a node can do on one level, with so much fuel for the levels below. -/
inductive Resolved (fuel : Nat) (budget : Budget) (s : Session) : Node → Node → Session → Prop
  /-- No level is left, and the node stays. -/
  | spent {node : Node} : budget.spent = true →
      Resolved fuel budget s node node (s.note (.depthExceeded budget.limit))
  /-- It is expanded, and goes on being resolved in its new form. -/
  | expanded {node rewritten value : Node} {u t : Session} : budget.spent = false →
      expand fuel budget node s = some (some rewritten, u) →
      resolve fuel budget.deeper rewritten u = some (value, t) →
      Resolved fuel budget s node value t
  /-- It is not, and its children are resolved. -/
  | seq {items values : List Node} {u t : Session} : budget.spent = false →
      expand fuel budget (.seq items) s = some (none, u) →
      items.mapM (resolve fuel budget.deeper) u = some (values, t) →
      Resolved fuel budget s (.seq items) (.seq values) t
  | map {entries values : Entries Node} {u t : Session} : budget.spent = false →
      expand fuel budget (.map entries) s = some (none, u) →
      entries.mapM (m := Evaluation)
        (fun (key, value) => do return (key, ← resolve fuel budget.deeper value)) u
        = some (values, t) →
      Resolved fuel budget s (.map entries) (.map values) t
  /-- It has none, and stays. -/
  | leaf {node : Node} {t : Session} : budget.spent = false →
      expand fuel budget node s = some (none, t) → node.seq? = none → node.entries? = none →
      Resolved fuel budget s node node t

/-- There is nothing else that one level of resolving can do. -/
theorem resolved_of_resolve {fuel : Nat} {budget : Budget} {node value : Node} {s t : Session}
    (h : resolve (fuel + 1) budget node s = some (value, t)) :
    Resolved fuel budget s node value t := by
  rw [resolve] at h
  unfold walkStep at h
  cases hs : budget.spent with
  | true =>
    rw [if_pos hs] at h
    obtain ⟨_, u, hnote, h⟩ := bind_eq_some_iff.1 h
    obtain ⟨rfl, rfl⟩ := pure_eq_some_iff.1 h
    cases hnote
    exact .spent hs
  | false =>
    rw [if_neg (by simp [hs])] at h
    obtain ⟨expanded, u, hexpand, h⟩ := bind_eq_some_iff.1 h
    cases expanded with
    | some rewritten => exact .expanded hs hexpand h
    | none =>
      cases node with
      | seq items =>
        obtain ⟨values, u', hvalues, h⟩ := bind_eq_some_iff.1 h
        obtain ⟨rfl, rfl⟩ := pure_eq_some_iff.1 h
        exact .seq hs hexpand hvalues
      | map entries =>
        obtain ⟨values, u', hvalues, h⟩ := bind_eq_some_iff.1 h
        obtain ⟨rfl, rfl⟩ := pure_eq_some_iff.1 h
        exact .map hs hexpand hvalues
      | _ =>
        obtain ⟨rfl, rfl⟩ := pure_eq_some_iff.1 h
        exact .leaf hs hexpand rfl rfl

/-- One level of resolving can do all of this. -/
theorem resolve_of_resolved {fuel : Nat} {budget : Budget} {node value : Node} {s t : Session}
    (h : Resolved fuel budget s node value t) :
    resolve (fuel + 1) budget node s = some (value, t) := by
  rw [resolve]
  unfold walkStep
  cases h with
  | spent hs =>
    rw [if_pos hs]
    rfl
  | expanded hs hexpand hrest =>
    rw [if_neg (by simp [hs])]
    exact bind_eq_some_iff.2 ⟨_, _, hexpand, hrest⟩
  | seq hs hexpand hvalues =>
    rw [if_neg (by simp [hs])]
    exact bind_eq_some_iff.2 ⟨_, _, hexpand, bind_eq_some_iff.2 ⟨_, _, hvalues, rfl⟩⟩
  | map hs hexpand hvalues =>
    rw [if_neg (by simp [hs])]
    exact bind_eq_some_iff.2 ⟨_, _, hexpand, bind_eq_some_iff.2 ⟨_, _, hvalues, rfl⟩⟩
  | leaf hs hexpand hseq hentries =>
    rw [if_neg (by simp [hs])]
    refine bind_eq_some_iff.2 ⟨_, _, hexpand, ?_⟩
    cases node with
    | seq items => exact nomatch hseq
    | map entries => exact nomatch hentries
    | _ => rfl

/-- Resolving and deciding let a session grow, with any fuel. -/
theorem grows (fuel : Nat) :
    (∀ budget node, Evaluation.Grows (resolve fuel budget node)) ∧
      ∀ budget node, Evaluation.Grows (decide fuel budget node) := by
  induction fuel with
  | zero => exact ⟨fun _ _ => .outOfFuel, fun _ _ => .outOfFuel⟩
  | succ fuel ih =>
    have hname := Condition.ofName_grows (ih.2 {})
    exact ⟨fun budget => compositional_grows.resolve_succ (fun _ => ih.1 _) fun _ => hname,
      fun budget =>
        compositional_grows.decide_succ (fun _ => ih.1 _) (fun _ => ih.2 _) fun _ => hname⟩

theorem expand_grows (fuel : Nat) (budget : Budget) (node : Node) :
    Evaluation.Grows (expand fuel budget node) :=
  compositional_grows.expand ((grows fuel).1 budget.deeper)
    (Condition.ofName_grows ((grows fuel).2 {})) node

/-- Deciding a name takes fuel for a walk from level zero, and for all other
    undecided conditions. -/
theorem ofName_answers {fuel bound : Nat} (hf : 21 * bound ≤ fuel)
    (hd : ∀ bound' budget node, budget.remaining + 1 + 21 * bound' ≤ fuel →
      Answers bound' (decide fuel budget node)) (name : String) :
    Answers bound (Condition.ofName (decide fuel) name) := by
  refine Condition.ofName_answers ((grows fuel).2 {}) (fun hb node => hd _ {} node ?_) name
  change 20 - 0 + 1 + 21 * (bound - 1) ≤ fuel
  omega

/-- Resolving and deciding have results with fuel for the levels that are left, and for a walk
    from level zero for each undecided condition. -/
theorem answers (fuel : Nat) :
    (∀ bound budget node, budget.remaining + 1 + 21 * bound ≤ fuel →
      Answers bound (resolve fuel budget node)) ∧
    ∀ bound budget node, budget.remaining + 1 + 21 * bound ≤ fuel →
      Answers bound (decide fuel budget node) := by
  induction fuel with
  | zero => exact ⟨fun _ _ _ h => by omega, fun _ _ _ h => by omega⟩
  | succ fuel ih =>
    -- One level down the budget has one level less, if it is not spent.
    have hlevel {bound : Nat} {budget : Budget} (hs : budget.spent = false)
        (h : budget.remaining + 1 + 21 * bound ≤ fuel + 1) :
        budget.deeper.remaining + 1 + 21 * bound ≤ fuel := by
      have hdeeper : budget.deeper.remaining < fuel - 21 * bound :=
        Budget.remaining_deeper_lt hs (by omega)
      omega
    have hP := compositional_answers
    have hname {bound : Nat} {budget : Budget} (h : budget.remaining + 1 + 21 * bound ≤ fuel) :
        ∀ name, Answers bound (Condition.ofName (decide fuel) name) :=
      ofName_answers (by omega) ih.2
    refine ⟨fun bound budget node h => ?_, fun bound budget node h => ?_⟩
    · exact (hP bound).resolve_succ (fun hs node => ih.1 bound _ node (hlevel hs h))
        (fun hs => hname (hlevel hs h)) node
    · refine (hP bound).decide_succ (fun hs node => ih.1 bound _ node ?_)
        (fun hs node => ih.2 bound _ node (hlevel hs h)) (fun hs => hname (hlevel hs h)) node
      have hl := hlevel hs h
      rw [Budget.remaining_deeper]
      omega

end Resolution

namespace Session

variable {α : Type} (s : Session) (budget : Budget)

/-- A computation that has a result is run to it. -/
theorem run_spec {s : Session} {x : Evaluation α} (fallback : α) (h : ∃ a t, x s = some (a, t)) :
    x s = some (s.run x fallback) := by
  obtain ⟨a, t, h⟩ := h
  rw [run, h]
  rfl

/-- There is fuel for one level in any case. -/
theorem exists_nesting_eq : ∃ fuel, s.nesting budget = fuel + 1 :=
  ⟨budget.remaining + 21 * s.undecided.length, by rw [nesting]; omega⟩

/-- Resolving always has a result. -/
theorem resolveAt_spec (node : Node) :
    Resolution.resolve (s.nesting budget) budget node s = some (s.resolveAt budget node) :=
  run_spec node (((Resolution.answers _).1 _ budget node (Nat.le_refl _)).2 s (Nat.le_refl _))

/-- Expanding a node always has a result. -/
theorem expandAt_spec (node : Node) :
    Resolution.expand (s.nesting budget) budget node s = some (s.expandAt budget node) := by
  have hr : ∀ node, Answers s.undecided.length
      (Resolution.resolve (s.nesting budget) budget.deeper node) := fun node =>
    (Resolution.answers _).1 _ _ node (by rw [nesting, Budget.remaining_deeper]; omega)
  have hh : ∀ name, Answers s.undecided.length
      (Condition.ofName (Resolution.decide (s.nesting budget)) name) :=
    Resolution.ofName_answers (by rw [nesting]; omega) (Resolution.answers _).2
  exact run_spec none (((compositional_answers _).expand hr hh node).2 s (Nat.le_refl _))

/-- Deciding an expression always has a result. -/
theorem decideAt_spec (node : Node) :
    Resolution.decide (s.nesting budget) budget node s = some (s.decideAt budget node) :=
  run_spec false (((Resolution.answers _).2 _ budget node (Nat.le_refl _)).2 s (Nat.le_refl _))

/-- Deciding a name always has a result. -/
theorem decideNamed_spec (name : String) :
    Condition.ofName (Resolution.decide (s.nesting {})) name s = some (s.decideNamed name) := by
  have hh : Answers s.undecided.length
      (Condition.ofName (Resolution.decide (s.nesting {})) name) :=
    Resolution.ofName_answers (by rw [nesting]; omega) (Resolution.answers _).2 name
  exact run_spec false (hh.2 s (Nat.le_refl _))

end Session

end SamTemplate
