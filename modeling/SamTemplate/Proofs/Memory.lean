import SamTemplate.Proofs.Scratch

/-!
# What a session remembers

Compared with deciding from scratch, a session remembers what it decided and
knows what it is deciding.

* `Scratch.simulated`: a session in which no decided condition differs from its
  value from scratch gives what is given from scratch, as long as nothing that is
  asked for on the way is being decided. What else the two have in common is left
  open (`Scratch.Follows`);
* `Scratch.keeps`: no run makes a condition differ from its value from scratch,
  even if it meets cycles;
* `Scratch.derives`: what a run gives that reports no cycle is given from scratch.
-/

namespace SamTemplate

open Evaluation

/-- Some message tells of a cycle. -/
def Warnings.ReportsCycle (warnings : Warnings) : Prop :=
  ∃ message ∈ warnings.messages, "Circular dependency".toList <+: message.toList

instance (warnings : Warnings) : Decidable warnings.ReportsCycle :=
  inferInstanceAs (Decidable (∃ message ∈ warnings.messages, _))

theorem Warnings.reportsCycle_circular (s : Session) (name : String) :
    (s.note (.conditionCircular name)).warnings.ReportsCycle := by
  have hp : "Circular dependency".toList
      <+: "Circular dependency detected in condition ".toList := by decide
  refine ⟨_, (Warnings.mem_add _ _ _).2 (.inr rfl), ?_⟩
  change _ <+: ("Circular dependency detected in condition " ++ quoted name).toList
  rw [String.toList_append]
  exact hp.trans (List.prefix_append _ _)

theorem Session.Grows.reportsCycle {s t : Session} (h : s.Grows t)
    (hs : s.warnings.ReportsCycle) : t.warnings.ReportsCycle := by
  obtain ⟨message, hmem, hp⟩ := hs
  exact ⟨message, h.warnings.subset hmem, hp⟩

namespace Scratch

variable {parameters : Parameters} {conditions : Entries Node} {name : String} {s t : Session}
  {f : Nat} {value : Bool}

/-! ### Sound sessions -/

/-- No decided condition differs from its value from scratch, if it has one. -/
abbrev Sound (parameters : Parameters) (conditions : Entries Node) (session : Session) : Prop :=
  session.Recalls parameters conditions fun name value =>
    ∀ fuel value', Value parameters conditions fuel name value' → value = value'

/-- None of these conditions has a value from scratch with this fuel. -/
def Unsettled (parameters : Parameters) (conditions : Entries Node) (fuel : Nat)
    (pending : List String) : Prop :=
  ∀ name ∈ pending, ∀ value, ¬ Value parameters conditions fuel name value

/-- A session in which something is evaluated from scratch, and a sound one in
    which it is evaluated while these conditions are being decided. -/
structure Backed (parameters : Parameters) (conditions : Entries Node) (pending : List String)
    (s t : Session) : Prop where
  serves : s.Serves parameters conditions
  sound : Sound parameters conditions t
  pending_eq : t.pending = pending

/-- A family of relations between a session in which something is evaluated from
    scratch and one that remembers, by what is being decided in the latter. -/
structure Follows (parameters : Parameters) (conditions : Entries Node)
    (R : List String → Session → Session → Prop) : Prop where
  comparable : ∀ pending, Comparable (R pending)
  backed : ∀ {pending s t}, R pending s t → Backed parameters conditions pending s t
  /-- A name that is decided is only decided again in the first session. -/
  remembered : ∀ {pending s t s' f name value}, R pending s t →
    t.decided.get? name = some value → ofName (decide f) name s = some (value, s') →
    R pending s' t
  enter : ∀ {pending s t} name, R pending s t → R (name :: pending) s (t.enter name)
  leave : ∀ {pending s t s' t' f name value}, R pending s t →
    ofName (decide f) name s = some (value, s') → R (name :: pending) s' t' →
    R pending s' (t'.leave name value)

theorem serves_of_run (hs : s.Serves parameters conditions)
    (h : ofName (decide f) name s = some (value, t)) : t.Serves parameters conditions := by
  obtain ⟨u, hu, hserves⟩ := value_of_run hs h (Nat.le_refl f) s hs
  cases h.symm.trans hu
  exact hserves

theorem follows_backed (parameters : Parameters) (conditions : Entries Node) :
    Follows parameters conditions (Backed parameters conditions) where
  comparable _ :=
    { parameters := fun _ _ h => h.serves.parameters_eq.trans h.sound.parameters_eq.symm
      note := fun s _ notice h =>
        ⟨(Session.Grows.note s notice).serves h.serves, h.sound.note notice, h.pending_eq⟩ }
  backed h := h
  remembered h _ hrun := ⟨serves_of_run h.serves hrun, h.sound, h.pending_eq⟩
  enter name h := ⟨h.serves, h.sound.enter name, by simp [Session.enter, h.pending_eq]⟩
  leave {_ _ _ _ _ f _ _} h hrun h' :=
    ⟨h'.serves, h'.sound.leave fun _ _ => (value_of_run h.serves hrun (Nat.le_refl f)).unique,
      by simp [Session.leave, h'.pending_eq]⟩

section

variable {R : List String → Session → Session → Prop} (hR : Follows parameters conditions R)

include hR

/-- A name is decided as from scratch if expressions are, with at most as much
    fuel, while more conditions are being decided. -/
theorem ofName_simulated {pending : List String}
    (hd : ∀ g ≤ f, ∀ pending, (∀ k < g, Unsettled parameters conditions k pending) →
      ∀ node, Simulates (R pending) (decide g {} node) (Resolution.decide g {} node))
    (hp : Unsettled parameters conditions f pending) (name : String) :
    Simulates (R pending) (ofName (decide f) name)
      (Condition.ofName (Resolution.decide f) name) := by
  intro s t value s' hs h
  have hb := hR.backed hs
  have hv : Value parameters conditions f name value := value_of_run hb.serves h (Nat.le_refl f)
  have hcond : s.conditions = t.conditions := hb.serves.same_conditions hb.sound.toServes
  cases hn : t.decided.get? name with
  | some value' =>
    -- What is remembered is the value from scratch.
    obtain rfl := hb.sound.decided name value' hn f value hv
    exact ⟨t, Condition.ofName_apply_of_decided hn, hR.remembered hs hn h⟩
  | none =>
    cases hc : t.conditions.get? name with
    | none =>
      rw [ofName_apply_of_unknown (hcond ▸ hc)] at h
      cases h
      exact ⟨_, Condition.ofName_apply_of_unknown hn hc, (hR.comparable pending).note s t _ hs⟩
    | some expression =>
      have hmem : name ∉ t.pending := fun hmem => hp name (hb.pending_eq ▸ hmem) value hv
      -- With the least fuel for it, deciding the name does not ask for the name.
      obtain ⟨g, hg, hvg, hleast⟩ := hv.least
      obtain ⟨u, hu, -⟩ := hvg s hb.serves
      obtain rfl : u = s' := by
        have hmono := (ofName_mono comparable_eq (fun _ _ h => h ▸ rfl) hg name).eq_some hu
        exact (Prod.mk.inj (Option.some.inj (hmono.symm.trans h))).2
      rw [ofName_apply (hcond ▸ hc)] at hu
      have hpend : ∀ k < g, Unsettled parameters conditions k (name :: pending) := by
        intro k hk other hother value' hval
        rcases List.mem_cons.1 hother with rfl | hother
        · exact hleast k hk value' hval
        · exact hp other hother value' (hval.mono (by omega))
      obtain ⟨t', ht, hleft⟩ := hd g hg _ hpend expression s (t.enter name) value u
        (hR.enter name hs) hu
      refine ⟨t'.leave name value, ?_, hR.leave hs h hleft⟩
      rw [Condition.ofName_apply_of_undecided hn hc hmem,
        ((Resolution.mono g f hg).2 {} expression).eq_some ht]
      rfl

/-- What is given from scratch is given in a session that remembers, as long as no
    condition that is being decided has a value with less fuel. -/
theorem simulated (f : Nat) (pending : List String)
    (hp : ∀ g < f, Unsettled parameters conditions g pending) :
    (∀ budget node, Simulates (R pending) (resolve f budget node)
      (Resolution.resolve f budget node)) ∧
    ∀ budget node, Simulates (R pending) (decide f budget node)
      (Resolution.decide f budget node) := by
  -- The induction is strong, since a name is decided with the least fuel for it,
  -- and generalizes over what is being decided, since that name is added to it.
  induction f using Nat.strong_induction_on generalizing pending with
  | _ f ih =>
    cases f with
    | zero => exact ⟨fun _ _ => .outOfFuel _, fun _ _ => .outOfFuel _⟩
    | succ f =>
      have hP := compositional_simulates (hR.comparable pending)
      obtain ⟨hr, hd⟩ := ih f (Nat.lt_succ_self f) pending fun g hg => hp g (by omega)
      have hname := ofName_simulated hR (fun g hg pending hp => (ih g (by omega) pending hp).2 {})
        (hp f (Nat.lt_succ_self f))
      exact ⟨fun budget node => hP.resolveLevel (fun _ => hr _) hname node,
        fun budget node => hP.decideLevel (fun _ => hr _) (fun _ => hd _) hname node⟩

end

/-! ### Keeping sessions sound -/

/-- A sound session in which nothing that is being decided has a value from
    scratch. -/
structure Steady (parameters : Parameters) (conditions : Entries Node) (session : Session) :
    Prop where
  sound : Sound parameters conditions session
  pending : ∀ fuel, Unsettled parameters conditions fuel session.pending

theorem Steady.note (h : Steady parameters conditions s) (notice : Notice) :
    Steady parameters conditions (s.note notice) :=
  ⟨h.sound.note notice, h.pending⟩

/-- A computation leaves a session steady. -/
def Keeps {α : Type} (parameters : Parameters) (conditions : Entries Node) (x : Evaluation α) :
    Prop :=
  ∀ s a t, Steady parameters conditions s → x s = some (a, t) → Steady parameters conditions t

theorem compositional_keeps : CompositionalOne fun _ x => Keeps parameters conditions x where
  pure a := by
    intro s b t hs h
    obtain ⟨-, rfl⟩ := pure_eq_some_iff.1 h
    exact hs
  bind hx hf := by
    intro s b t hs h
    obtain ⟨a, u, ha, hb⟩ := bind_eq_some_iff.1 h
    exact hf a u b t (hx s a u hs ha) hb
  note notice := by
    intro s a t hs h
    cases h
    exact hs.note notice
  read hf := fun s a t hs h => hf s.parameters s a t hs h

/-- A name that has a value from scratch is decided to have it. No other name
    can be decided wrongly. -/
theorem ofName_keeps {fuel : Nat}
    (hd : ∀ node, Keeps parameters conditions (Resolution.decide fuel {} node)) (name : String) :
    Keeps parameters conditions (Condition.ofName (Resolution.decide fuel) name) := by
  intro s value t hs h
  by_cases hv : ∃ f value', Value parameters conditions f name value'
  · -- The run from scratch is simulated with its own fuel, and the result is the same.
    obtain ⟨f, value', hv⟩ := hv
    obtain ⟨u, hu, -⟩ := hv s hs.sound.toServes
    have hR := follows_backed parameters conditions
    obtain ⟨t', ht, hb⟩ :=
      ofName_simulated hR (fun g _ pending hp => (simulated hR g pending hp).2 {})
        (hs.pending f) name s s value' u ⟨hs.sound.toServes, hs.sound, rfl⟩ hu
    cases Resolution.ofName_unique h ht
    exact ⟨hb.sound, hb.pending_eq ▸ hs.pending⟩
  · have hnone : ∀ f value', ¬ Value parameters conditions f name value' :=
      fun f value' h => hv ⟨f, value', h⟩
    cases Condition.asked_of_ofName h with
    | decided => exact hs
    | unknown => exact hs.note _
    | circular => exact hs.note _
    | @decide expression _ u hn hc hp hu =>
      -- The name joins those that have no value, and any value will do for it.
      have hpend : ∀ fuel, Unsettled parameters conditions fuel (s.enter name).pending :=
        fun fuel => List.forall_mem_cons.2 ⟨hnone fuel, hs.pending fuel⟩
      have hk := hd expression _ _ _ ⟨hs.sound.enter name, hpend⟩ hu
      have hg := Session.grows_leave hn ((Resolution.grows fuel).2 {} expression _ _ _ hu) value
      exact ⟨hk.sound.leave fun f value' hval => absurd hval (hnone f value'),
        hg.pending ▸ hs.pending⟩

/-- No run makes a condition differ from its value from scratch. -/
theorem keeps (fuel : Nat) :
    (∀ budget node, Keeps parameters conditions (Resolution.resolve fuel budget node)) ∧
      ∀ budget node, Keeps parameters conditions (Resolution.decide fuel budget node) := by
  induction fuel with
  | zero => exact ⟨fun _ _ _ _ _ _ h => (nomatch h), fun _ _ _ _ _ _ h => (nomatch h)⟩
  | succ fuel ih =>
    have hname := ofName_keeps (ih.2 {})
    exact ⟨fun budget => compositional_keeps.resolve_succ (fun _ => ih.1 _) fun _ => hname,
      fun budget =>
        compositional_keeps.decide_succ (fun _ => ih.1 _) (fun _ => ih.2 _) fun _ => hname⟩

/-! ### Runs that report no cycle -/

/-- Every decided condition has the value from scratch that it was decided to
    have. -/
abbrev Derived (parameters : Parameters) (conditions : Entries Node) (session : Session) : Prop :=
  session.Recalls parameters conditions fun name value =>
    ∃ fuel, Value parameters conditions fuel name value

/-- What a computation gives without reporting a cycle is given from scratch with
    enough fuel, and conditions are decided on the way to have their values. -/
def Derives {α : Type} (parameters : Parameters) (conditions : Entries Node) (x : Evaluation α)
    (y : Nat → Evaluation α) : Prop :=
  Grows x ∧ ∀ s a t, Derived parameters conditions s → x s = some (a, t) →
    ¬ t.warnings.ReportsCycle → Derived parameters conditions t ∧
      ∃ f, ∀ g, f ≤ g → Gives parameters conditions (y g) a

/-- A family with a computation, and one from scratch for each amount of fuel. -/
theorem compositional_derives (parameters : Parameters) (conditions : Entries Node) :
    Compositional fun α (x : Option Nat → Evaluation α) =>
    Derives parameters conditions (x none) fun fuel => x (some fuel) where
  pure a := by
    refine ⟨.pure a, fun s b t hs h _ => ?_⟩
    obtain ⟨rfl, rfl⟩ := pure_eq_some_iff.1 h
    exact ⟨hs, 0, fun g _ u hu => ⟨u, rfl, hu⟩⟩
  bind hx hf := by
    refine ⟨.bind hx.1 fun a => (hf a).1, fun s b t hs h hc => ?_⟩
    obtain ⟨a, u, ha, hb⟩ := bind_eq_some_iff.1 h
    obtain ⟨hu, f, hgives⟩ := hx.2 s a u hs ha fun hr => hc (((hf a).1 u b t hb).reportsCycle hr)
    obtain ⟨ht, f', hgives'⟩ := (hf a).2 u b t hu hb hc
    -- Fuel that suffices for both computations suffices for one after the other.
    refine ⟨ht, max f f', fun g hg v hv => ?_⟩
    obtain ⟨v', hv', hserves⟩ := hgives g (by omega) v hv
    obtain ⟨w, hw, hserves'⟩ := hgives' g (by omega) v' hserves
    exact ⟨w, bind_eq_some_iff.2 ⟨a, v', hv', hw⟩, hserves'⟩
  note notice := by
    refine ⟨.note notice, fun s a t hs h _ => ?_⟩
    cases h
    refine ⟨hs.note notice, 0, fun g _ u hu => ?_⟩
    exact ⟨_, note_apply notice, (Session.Grows.note u notice).serves hu⟩
  read hf := by
    refine ⟨.read fun p => (hf p).1, fun s a t hs h hc => ?_⟩
    obtain ⟨ht, f, hgives⟩ := (hf s.parameters).2 s a t hs h hc
    refine ⟨ht, f, fun g hg u hu => ?_⟩
    obtain ⟨v, hv, hserves⟩ := hgives g hg u hu
    rw [hs.parameters_eq, ← hu.parameters_eq] at hv
    exact ⟨v, hv, hserves⟩

/-- It does not matter how much of the fuel is counted. -/
theorem Derives.succ {α : Type} {x : Evaluation α} {y : Nat → Evaluation α}
    (h : Derives parameters conditions x fun fuel => y (fuel + 1)) :
    Derives parameters conditions x y := by
  refine ⟨h.1, fun s a t hs hx hc => ?_⟩
  obtain ⟨ht, f, hgives⟩ := h.2 s a t hs hx hc
  refine ⟨ht, f + 1, fun g hg => ?_⟩
  obtain ⟨g, rfl⟩ : ∃ n, g = n + 1 := ⟨g - 1, by omega⟩
  exact hgives g (by omega)

theorem ofName_derives {fuel : Nat}
    (hd : ∀ node, Derives parameters conditions (Resolution.decide fuel {} node)
      fun f => decide f {} node) (name : String) :
    Derives parameters conditions (Condition.ofName (Resolution.decide fuel) name)
      fun f => ofName (decide f) name := by
  refine ⟨Condition.ofName_grows (fun node => (hd node).1) name, fun s value t hs h hcycle => ?_⟩
  cases Condition.asked_of_ofName h with
  | decided hn =>
    obtain ⟨f, hv⟩ := hs.decided name value hn
    exact ⟨hs, f, fun g hg => hv.mono hg⟩
  | unknown hn hc =>
    refine ⟨hs.note _, 0, fun g _ u hu => ?_⟩
    have hcond : u.conditions = s.conditions := hu.same_conditions hs.toServes
    exact ⟨_, ofName_apply_of_unknown (hcond ▸ hc), (Session.Grows.note u _).serves hu⟩
  | circular => exact absurd (Warnings.reportsCycle_circular s name) hcycle
  | @decide expression _ u hn hc hp hu =>
    obtain ⟨hder, f, hgives⟩ := (hd expression).2 _ value u (hs.enter name) hu hcycle
    have hv : ∀ g, f ≤ g → Value parameters conditions g name value := by
      intro g hg v hv
      have hcond : v.conditions = s.conditions := hv.same_conditions hs.toServes
      rw [ofName_apply (hcond ▸ hc)]
      exact hgives g hg v hv
    exact ⟨hder.leave ⟨f, hv f (Nat.le_refl f)⟩, f, hv⟩

/-- What is given without reporting a cycle is given from scratch. -/
theorem derives (fuel : Nat) :
    (∀ budget node, Derives parameters conditions (Resolution.resolve fuel budget node)
      fun f => resolve f budget node) ∧
    ∀ budget node, Derives parameters conditions (Resolution.decide fuel budget node)
      fun f => decide f budget node := by
  induction fuel with
  | zero =>
    exact ⟨fun budget node => ⟨(Resolution.grows 0).1 budget node, fun _ _ _ _ h => (nomatch h)⟩,
      fun budget node => ⟨(Resolution.grows 0).2 budget node, fun _ _ _ _ h => (nomatch h)⟩⟩
  | succ fuel ih =>
    have hP := compositional_derives parameters conditions
    have hname := ofName_derives (ih.2 {})
    refine ⟨fun budget node => .succ ?_, fun budget node => .succ ?_⟩
    · exact @Compositional.resolveLevel _ _ hP
        (fun i => i.elim (Condition.ofName (Resolution.decide fuel)) fun f => ofName (decide f))
        budget (fun i => i.elim (Resolution.resolve fuel) resolve)
        (fun _ => ih.1 _) (fun _ => hname) node
    · exact @Compositional.decideLevel _ _ hP
        (fun i => i.elim (Condition.ofName (Resolution.decide fuel)) fun f => ofName (decide f))
        budget (fun i => i.elim (Resolution.resolve fuel) resolve)
        (fun i => i.elim (Resolution.decide fuel) decide)
        (fun _ => ih.1 _) (fun _ => ih.2 _) (fun _ => hname) node

end Scratch

end SamTemplate
