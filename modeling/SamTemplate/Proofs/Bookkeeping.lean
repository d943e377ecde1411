import SamTemplate.Proofs.History

/-!
# What a session keeps account of

A session knows what it has decided and what it is deciding. `Evaluation.Begins`
is a run with the conditions that it begins to decide on the way, those inside
others included, and `Session.Begins` is the same for a history.

* `Evaluation.Begins.accounts`: a run begins only what is neither decided nor
  being decided, nothing twice, and what is decided at its end is what was decided
  before and what it began;
* `Session.invariant_after`: after every history nothing is being decided, the
  template is as it was, every decided condition is one of the template, no
  condition was begun twice, and from one operation to the next what is decided
  stays and notices come after the earlier ones.
-/

namespace SamTemplate

namespace Evaluation

/-- A computation, run in a session, gives a value and leaves a session behind,
    and on the way begins to decide the conditions of some names, in this order. -/
inductive Begins : {α : Type} → Evaluation α → Session → α → Session → List String → Prop
  | pure {α : Type} (a : α) (s : Session) : Begins (pure a) s a s []
  | bind {α β : Type} {x : Evaluation α} {f : α → Evaluation β} {s t u : Session} {a : α} {b : β}
      {names names' : List String} : Begins x s a t names → Begins (f a) t b u names' →
      Begins (x >>= f) s b u (names ++ names')
  | note (notice : Notice) (s : Session) : Begins (note notice) s () (s.note notice) []
  | read {α : Type} {f : Parameters → Evaluation α} {s t : Session} {a : α}
      {names : List String} : Begins (f s.parameters) s a t names →
      Begins (do f (← get).parameters) s a t names
  /-- A condition that is decided is not begun. -/
  | decided {decide : Budget → Node → Evaluation Bool} {name : String} {value : Bool}
      {s : Session} : s.decided.get? name = some value →
      Begins (Condition.ofName decide name) s value s []
  /-- Nor is one that is unknown. -/
  | unknown {decide : Budget → Node → Evaluation Bool} {name : String} {s : Session} :
      s.decided.get? name = none → s.conditions.get? name = none →
      Begins (Condition.ofName decide name) s false (s.note (.conditionUnknown name)) []
  /-- Nor one that is being decided. -/
  | circular {decide : Budget → Node → Evaluation Bool} {name : String} {expression : Node}
      {s : Session} : s.decided.get? name = none → s.conditions.get? name = some expression →
      name ∈ s.pending →
      Begins (Condition.ofName decide name) s false (s.note (.conditionCircular name)) []
  /-- Any other condition is begun where its expression is decided. -/
  | decide {decide : Budget → Node → Evaluation Bool} {name : String} {expression : Node}
      {value : Bool} {s t : Session} {names : List String} : s.decided.get? name = none →
      s.conditions.get? name = some expression → name ∉ s.pending →
      Begins (decide {} expression) (s.enter name) value t names →
      Begins (Condition.ofName decide name) s value (t.leave name value) (name :: names)

/-- What becomes of a session while the conditions of some names are begun. -/
structure Accounts (before after : Session) (names : List String) : Prop where
  conditions : after.conditions = before.conditions
  /-- All that is begun is ended. -/
  pending : after.pending = before.pending
  /-- No condition is begun twice. -/
  nodup : names.Nodup
  /-- Only conditions of the template are begun that are neither decided nor being
      decided. -/
  fresh : ∀ name ∈ names, name ∈ before.undecided
  /-- What was begun is decided, and nothing else is that was not before. -/
  decided_iff : ∀ name, (after.decided.get? name).isSome ↔
    (before.decided.get? name).isSome ∨ name ∈ names

end Evaluation

theorem Session.mem_undecided {s : Session} {name : String} : name ∈ s.undecided ↔
    name ∈ s.conditions.keys ∧ (s.decided.get? name).isSome = false ∧ name ∉ s.pending := by
  simp [undecided]

namespace Evaluation

namespace Accounts

variable {s t u : Session} {names names' : List String}

/-- Nothing is begun where neither the conditions change nor what is decided. -/
theorem of_eq (hc : t.conditions = s.conditions) (hp : t.pending = s.pending)
    (hd : t.decided = s.decided) : Accounts s t [] :=
  ⟨hc, hp, List.nodup_nil, by simp, by simp [hd]⟩

/-- Of two parts, the second begins nothing that the first one began. -/
theorem trans (h : Accounts s t names) (h' : Accounts t u names') :
    Accounts s u (names ++ names') where
  conditions := h'.conditions.trans h.conditions
  pending := h'.pending.trans h.pending
  nodup := by
    refine List.nodup_append.2 ⟨h.nodup, h'.nodup, fun name hn name' hn' heq => ?_⟩
    -- What is begun first is decided when the rest starts.
    obtain ⟨-, hnone, -⟩ := Session.mem_undecided.1 (h'.fresh name' hn')
    have hsome := (h.decided_iff name).2 (.inr hn)
    rw [heq, hnone] at hsome
    cases hsome
  fresh := by
    intro name hn
    rcases List.mem_append.1 hn with hn | hn
    · exact h.fresh name hn
    · obtain ⟨hkey, hnone, hpending⟩ := Session.mem_undecided.1 (h'.fresh name hn)
      refine Session.mem_undecided.2 ⟨h.conditions ▸ hkey, ?_, h.pending ▸ hpending⟩
      refine Bool.eq_false_iff.2 fun hsome => ?_
      rw [(h.decided_iff name).2 (.inl hsome)] at hnone
      cases hnone
  decided_iff name := by
    rw [h'.decided_iff, h.decided_iff, List.mem_append, or_assoc]

/-- A condition is begun before all that is begun while it is decided. -/
theorem leave {name : String} {expression : Node} (hd : s.decided.get? name = none)
    (hc : s.conditions.get? name = some expression) (hp : name ∉ s.pending)
    (h : Accounts (s.enter name) t names) (value : Bool) :
    Accounts s (t.leave name value) (name :: names) where
  conditions := h.conditions
  pending := by simp [Session.leave, h.pending, Session.enter]
  nodup := by
    refine List.nodup_cons.2 ⟨fun hn => ?_, h.nodup⟩
    obtain ⟨-, -, hpending⟩ := Session.mem_undecided.1 (h.fresh name hn)
    exact hpending List.mem_cons_self
  fresh := by
    refine List.forall_mem_cons.2 ⟨?_, fun other hn => ?_⟩
    · exact Session.mem_undecided.2 ⟨Entries.mem_keys_of_get? hc, by rw [hd]; rfl, hp⟩
    · obtain ⟨hkey, hnone, hpending⟩ := Session.mem_undecided.1 (h.fresh other hn)
      exact Session.mem_undecided.2
        ⟨hkey, hnone, fun hmem => hpending (List.mem_cons_of_mem _ hmem)⟩
  decided_iff other := by
    have hiff := h.decided_iff other
    simp only [Session.leave, Bindings.get?_insert, Session.enter] at hiff ⊢
    by_cases heq : name = other
    · simp [heq]
    · simp [heq, Ne.symm heq, hiff]

end Accounts

namespace Begins

variable {α : Type} {x : Evaluation α} {s t : Session} {a : α} {names : List String}

/-- What a run begins is well accounted for. -/
theorem accounts (h : Begins x s a t names) : Accounts s t names := by
  induction h with
  | pure => exact .of_eq rfl rfl rfl
  | bind _ _ ih ih' => exact ih.trans ih'
  | note => exact .of_eq rfl rfl rfl
  | read _ ih => exact ih
  | decided => exact .of_eq rfl rfl rfl
  | unknown => exact .of_eq rfl rfl rfl
  | circular => exact .of_eq rfl rfl rfl
  | decide hd hc hp _ ih => exact .leave hd hc hp ih _

end Begins

/-- Every run begins some conditions or none. -/
def Traceable {α : Type} (x : Evaluation α) : Prop :=
  ∀ s a t, x s = some (a, t) → ∃ names, Begins x s a t names

theorem compositional_traceable : CompositionalOne fun _ x => Traceable x where
  pure a := by
    intro s b t h
    obtain ⟨rfl, rfl⟩ := pure_eq_some_iff.1 h
    exact ⟨[], .pure a s⟩
  bind hx hf := by
    intro s b t h
    obtain ⟨a, u, ha, hb⟩ := bind_eq_some_iff.1 h
    obtain ⟨names, hn⟩ := hx s a u ha
    obtain ⟨names', hn'⟩ := hf a u b t hb
    exact ⟨names ++ names', hn.bind hn'⟩
  note notice := by
    intro s a t h
    cases h
    exact ⟨[], .note notice s⟩
  read hf := by
    intro s a t h
    obtain ⟨names, hn⟩ := hf s.parameters s a t h
    exact ⟨names, .read hn⟩

/-- Deciding a name can be traced if deciding its expression can. -/
theorem traceable_ofName {decide : Budget → Node → Evaluation Bool}
    (hd : ∀ node, Traceable (decide {} node)) (name : String) :
    Traceable (Condition.ofName decide name) := by
  intro s value t h
  cases Condition.asked_of_ofName h with
  | decided hn => exact ⟨[], .decided hn⟩
  | unknown hn hc => exact ⟨[], .unknown hn hc⟩
  | circular hn hc hp => exact ⟨[], .circular hn hc hp⟩
  | decide hn hc hp hu =>
    obtain ⟨names, hnames⟩ := hd _ _ _ _ hu
    exact ⟨name :: names, .decide hn hc hp hnames⟩

end Evaluation

open Evaluation

/-- All resolving and deciding can be traced, by the levels of fuel. -/
theorem Resolution.traceable (fuel : Nat) :
    (∀ budget node, Traceable (resolve fuel budget node)) ∧
      ∀ budget node, Traceable (decide fuel budget node) := by
  induction fuel with
  | zero => exact ⟨fun _ _ _ _ _ h => (nomatch h), fun _ _ _ _ _ h => (nomatch h)⟩
  | succ fuel ih =>
    have hP := compositional_traceable
    have hname := traceable_ofName (ih.2 {})
    exact ⟨fun budget => hP.resolve_succ (fun _ => ih.1 _) fun _ => hname,
      fun budget => hP.decide_succ (fun _ => ih.1 _) (fun _ => ih.2 _) fun _ => hname⟩

/-- A query can be traced, as it resolves or decides. -/
theorem Query.traceable (query : Query) (fuel : Nat) : Traceable (query.run fuel) :=
  have h := Resolution.traceable fuel
  compositional_traceable.run h.1 h.2 (traceable_ofName (h.2 {})) query

namespace Session

/-- A history, carried out in a session, begins to decide the conditions of some
    names, in this order. -/
inductive Begins : Session → List Operation → List String → Prop
  | nil (s : Session) : Begins s [] []
  | ask {s : Session} {query : Query} {fuel : Nat} {history : List Operation}
      {names names' : List String} :
      Evaluation.Begins (query.run fuel) s (s.perform query).1 (s.perform query).2 names →
      Begins (s.perform query).2 history names' →
      Begins s (.ask query :: history) (names ++ names')
  | takeWarnings {s : Session} {history : List Operation} {names : List String} :
      Begins s.takeWarnings.2 history names → Begins s (.takeWarnings :: history) names

/-- Every history begins some conditions or none. -/
theorem exists_begins (s : Session) (history : List Operation) :
    ∃ names, s.Begins history names := by
  induction history generalizing s with
  | nil => exact ⟨[], .nil s⟩
  | cons operation history ih =>
    obtain ⟨names', hrest⟩ := ih (s.step operation)
    cases operation with
    | ask query =>
      obtain ⟨fuel, hrun⟩ := s.perform_spec query
      obtain ⟨names, hnames⟩ := query.traceable fuel _ _ _ hrun
      exact ⟨names ++ names', .ask hnames hrest⟩
    | takeWarnings => exact ⟨names', .takeWarnings hrest⟩

theorem Begins.accounts {s : Session} {history : List Operation} {names : List String}
    (h : s.Begins history names) : Accounts s (s.after history) names := by
  induction h with
  | nil => exact .of_eq rfl rfl rfl
  | ask hrun _ ih => exact hrun.accounts.trans ih
  | @takeWarnings s history names _ ih =>
    have htaken : Accounts s s.takeWarnings.2 [] := .of_eq rfl rfl rfl
    exact htaken.trans ih

variable (parameters : Parameters) (conditions : Entries Node)

/-- After every history nothing is being decided, parameters and conditions are as
    they were, every decided condition has a name of the template, and no notice is
    there twice. Whatever operation comes next, what is decided stays decided, and
    the notices so far come before the later ones unless they are taken out. Over
    the whole history no condition was begun twice, and those that were begun are
    the decided ones. -/
theorem invariant_after (history : List Operation) :
    let s := (start parameters conditions).after history
    (s.pending = [] ∧ s.parameters = parameters ∧ s.conditions = conditions ∧
      (∀ name value, s.decided.get? name = some value → name ∈ conditions.keys) ∧
      s.warnings.messages.Nodup) ∧
    (∀ operation,
      (∀ name value, s.decided.get? name = some value →
        (s.step operation).decided.get? name = some value) ∧
      match operation with
      | .ask _ => s.warnings.messages <+: (s.step operation).warnings.messages
      | .takeWarnings => (s.step operation).warnings = .empty) ∧
    (∃ names, (start parameters conditions).Begins history names) ∧
    ∀ names, (start parameters conditions).Begins history names →
      names.Nodup ∧ ∀ name, name ∈ names ↔ (s.decided.get? name).isSome := by
  intro s
  have hidle := (idle_start parameters conditions).after history
  have hbegins := (start parameters conditions).exists_begins history
  have hbegun : ∀ names, (start parameters conditions).Begins history names →
      ∀ name, name ∈ names ↔ (s.decided.get? name).isSome := by
    intro names h name
    rw [h.accounts.decided_iff name]
    simp [start]
  refine ⟨⟨hidle.pending_eq, hidle.sound.parameters_eq, hidle.sound.conditions_eq, ?_,
    s.warnings.nodup⟩, fun operation => ?_, hbegins,
    fun names h => ⟨h.accounts.nodup, hbegun names h⟩⟩
  · -- What is decided was begun, and only conditions of the template are.
    obtain ⟨names, h⟩ := hbegins
    intro name value hd
    have hn := (hbegun names h name).2 (Option.isSome_of_eq_some hd)
    exact (mem_undecided.1 (h.accounts.fresh name hn)).1
  · cases operation with
    | ask query =>
      have hgrows := s.grows_perform query
      exact ⟨hgrows.decided, hgrows.warnings⟩
    | takeWarnings => exact ⟨fun _ _ h => h, rfl⟩

end Session

end SamTemplate
