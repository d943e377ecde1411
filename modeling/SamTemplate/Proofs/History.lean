import SamTemplate.Proofs.Memory

/-!
# Histories of a session

A session is asked one thing after the other, and its notices may be taken out
in between. What it is asked (`Query`) and what it was asked before (a list of
`Operation`s) are both arbitrary here.

* `Session.perform_after`: a query that meets no cycle in a new session has the
  same answer after every history, including those that meet cycles;
* `Session.decideNamed_after`: so the value of a named condition that meets no
  cycle does not depend on the history. One that does meet a cycle keeps the
  value it is given first, but that one depends on which member of the cycle is
  asked for first (`Session.decideNamed_after_ne`).
-/

namespace SamTemplate

open Evaluation Scratch

/-- What a session can be asked. -/
inductive Query where
  /-- What a tree resolves to, from a level on. -/
  | resolve (budget : Budget) (node : Node)
  /-- What a node is expanded to, if it is. -/
  | expand (budget : Budget) (node : Node)
  /-- Whether an expression is true, from a level on. -/
  | decide (budget : Budget) (node : Node)
  /-- Whether the condition of a name holds. -/
  | decideNamed (name : String)

/-- What a session answers. -/
inductive Answer where
  | resolved (node : Node)
  | expanded (node : Option Node)
  | decided (value : Bool)

/-- What can be done to a session. -/
inductive Operation where
  /-- It is asked something. -/
  | ask (query : Query)
  /-- Its notices are taken out. -/
  | takeWarnings

namespace Session

/-- Answers a query. -/
def perform (session : Session) : Query → Answer × Session
  | .resolve budget node => (session.resolveAt budget node).map .resolved id
  | .expand budget node => (session.expandAt budget node).map .expanded id
  | .decide budget node => (session.decideAt budget node).map .decided id
  | .decideNamed name => (session.decideNamed name).map .decided id

/-- The session after an operation. -/
def step (session : Session) : Operation → Session
  | .ask query => (session.perform query).2
  | .takeWarnings => session.takeWarnings.2

/-- The session after a history. -/
def after (session : Session) (history : List Operation) : Session := history.foldl step session

end Session

/-! ### Queries as computations -/

namespace Query

/-- The computation that answers a query, from ways to resolve and decide. -/
def computation (resolve : Budget → Node → Evaluation Node)
    (decide : Budget → Node → Evaluation Bool) (holds : String → Evaluation Bool) :
    Query → Evaluation Answer
  | .resolve budget node => do return .resolved (← resolve budget node)
  | .expand budget node => do
    return .expanded (← Intrinsic.expand (resolve budget.deeper) holds node)
  | .decide budget node => do return .decided (← decide budget node)
  | .decideNamed name => do return .decided (← holds name)

/-- The computation in a session, with so much fuel. -/
def run (query : Query) (fuel : Nat) : Evaluation Answer :=
  query.computation (Resolution.resolve fuel) (Resolution.decide fuel)
    (Condition.ofName (Resolution.decide fuel))

/-- The computation from scratch, with so much fuel. -/
def scratch (query : Query) (fuel : Nat) : Evaluation Answer :=
  query.computation (Scratch.resolve fuel) (Scratch.decide fuel)
    (Scratch.ofName (Scratch.decide fuel))

end Query

/-- Answering a query has every compositional property that resolving and
    deciding have. -/
theorem Compositional.computation {ι : Type} {P : (α : Type) → (ι → Evaluation α) → Prop}
    (hP : Compositional P) {resolve : ι → Budget → Node → Evaluation Node}
    {decide : ι → Budget → Node → Evaluation Bool} {holds : ι → String → Evaluation Bool}
    (hr : ∀ budget node, P Node fun i => resolve i budget node)
    (hd : ∀ budget node, P Bool fun i => decide i budget node)
    (hh : ∀ name, P Bool fun i => holds i name) (query : Query) :
    P Answer fun i => query.computation (resolve i) (decide i) (holds i) := by
  cases query with
  | resolve budget node => exact hP.bind (hr budget node) fun _ => hP.pure _
  | expand budget node => exact hP.bind (hP.expand (hr budget.deeper) hh node) fun _ => hP.pure _
  | decide budget node => exact hP.bind (hd budget node) fun _ => hP.pure _
  | decideNamed name => exact hP.bind (hh name) fun _ => hP.pure _

theorem CompositionalOne.run {Q : (α : Type) → Evaluation α → Prop} (hQ : CompositionalOne Q)
    {fuel : Nat} (hr : ∀ budget node, Q Node (Resolution.resolve fuel budget node))
    (hd : ∀ budget node, Q Bool (Resolution.decide fuel budget node))
    (hh : ∀ name, Q Bool (Condition.ofName (Resolution.decide fuel) name)) (query : Query) :
    Q Answer (query.run fuel) :=
  @Compositional.computation Unit _ hQ (fun _ => Resolution.resolve fuel)
    (fun _ => Resolution.decide fuel) (fun _ => Condition.ofName (Resolution.decide fuel)) hr hd hh
    query

theorem CompositionalTwo.computation {Q : (α : Type) → Evaluation α → Evaluation α → Prop}
    (hQ : CompositionalTwo Q) {resolve resolve' : Budget → Node → Evaluation Node}
    {decide decide' : Budget → Node → Evaluation Bool} {holds holds' : String → Evaluation Bool}
    (hr : ∀ budget node, Q Node (resolve budget node) (resolve' budget node))
    (hd : ∀ budget node, Q Bool (decide budget node) (decide' budget node))
    (hh : ∀ name, Q Bool (holds name) (holds' name)) (query : Query) :
    Q Answer (query.computation resolve decide holds) (query.computation resolve' decide' holds') :=
  @Compositional.computation Bool _ hQ (fun i => bif i then resolve' else resolve)
    (fun i => bif i then decide' else decide) (fun i => bif i then holds' else holds) hr hd hh query

namespace Query

variable {parameters : Parameters} {conditions : Entries Node} {s : Session}

theorem grows (query : Query) (fuel : Nat) : Grows (query.run fuel) :=
  have h := Resolution.grows fuel
  compositional_grows.run h.1 h.2 (Condition.ofName_grows (h.2 {})) query

theorem keeps (query : Query) (fuel : Nat) : Keeps parameters conditions (query.run fuel) :=
  have h := Scratch.keeps fuel
  compositional_keeps.run h.1 h.2 (ofName_keeps (h.2 {})) query

theorem mono (query : Query) (f g : Nat) (hfg : f ≤ g) :
    Simulates Eq (query.run f) (query.run g) :=
  have h := Resolution.mono f g hfg
  (compositional_simulates comparable_eq).computation h.1 h.2
    (Condition.ofName_simulates_eq (h.2 {})) query

/-- What is answered from scratch is answered in a session that remembers and in
    which nothing is being decided. -/
theorem simulated {R : List String → Session → Session → Prop}
    (hR : Follows parameters conditions R) (query : Query) (fuel : Nat) :
    Simulates (R []) (query.scratch fuel) (query.run fuel) :=
  have hp : ∀ f, Unsettled parameters conditions f [] := fun _ _ h => absurd h List.not_mem_nil
  have h := Scratch.simulated hR fuel [] fun f _ => hp f
  (compositional_simulates (hR.comparable [])).computation h.1 h.2
    (ofName_simulated hR (fun g _ pending hp => (Scratch.simulated hR g pending hp).2 {})
      (hp fuel)) query

/-- What is answered without reporting a cycle is answered from scratch. -/
theorem derives (query : Query) (fuel : Nat) :
    Derives parameters conditions (query.run fuel) query.scratch :=
  have h := Scratch.derives fuel
  @Compositional.computation _ _ (compositional_derives parameters conditions)
    (fun i => i.elim (Resolution.resolve fuel) Scratch.resolve)
    (fun i => i.elim (Resolution.decide fuel) Scratch.decide)
    (fun i => i.elim (Condition.ofName (Resolution.decide fuel))
      fun f => Scratch.ofName (Scratch.decide f))
    h.1 h.2 (ofName_derives (h.2 {})) query

end Query

/-! ### Answers after a history -/

namespace Session

variable {parameters : Parameters} {conditions : Entries Node} {s : Session}

/-- Answering a query is running its computation with enough fuel. -/
theorem perform_spec (s : Session) (query : Query) :
    ∃ fuel, query.run fuel s = some (s.perform query) := by
  cases query with
  | resolve budget node =>
    exact ⟨s.nesting budget, bind_eq_some_iff.2 ⟨_, _, s.resolveAt_spec budget node, rfl⟩⟩
  | expand budget node =>
    exact ⟨s.nesting budget, bind_eq_some_iff.2 ⟨_, _, s.expandAt_spec budget node, rfl⟩⟩
  | decide budget node =>
    exact ⟨s.nesting budget, bind_eq_some_iff.2 ⟨_, _, s.decideAt_spec budget node, rfl⟩⟩
  | decideNamed name =>
    exact ⟨s.nesting {}, bind_eq_some_iff.2 ⟨_, _, s.decideNamed_spec name, rfl⟩⟩

theorem grows_perform (s : Session) (query : Query) : s.Grows (s.perform query).2 := by
  obtain ⟨fuel, h⟩ := s.perform_spec query
  exact query.grows fuel _ _ _ h

/-- Between the operations of a history a session is sound, and nothing is being
    decided in it. -/
structure Idle (parameters : Parameters) (conditions : Entries Node) (session : Session) :
    Prop where
  sound : Sound parameters conditions session
  pending_eq : session.pending = []

/-- A session is idle again after each operation. -/
theorem Idle.step (h : s.Idle parameters conditions) (operation : Operation) :
    (s.step operation).Idle parameters conditions := by
  cases operation with
  | ask query =>
    obtain ⟨fuel, hrun⟩ := s.perform_spec query
    -- Nothing is being decided, so that nothing of it can have a value from scratch.
    have hs : Steady parameters conditions s :=
      ⟨h.sound, fun _ _ hmem => absurd (h.pending_eq ▸ hmem) List.not_mem_nil⟩
    exact ⟨(query.keeps fuel _ _ _ hs hrun).sound,
      (s.grows_perform query).pending.trans h.pending_eq⟩
  | takeWarnings =>
    have hs := h.sound
    exact ⟨⟨⟨hs.parameters_eq, hs.conditions_eq⟩, hs.decided⟩, h.pending_eq⟩

/-- A session is idle after every history. -/
theorem Idle.after (h : s.Idle parameters conditions) (history : List Operation) :
    (s.after history).Idle parameters conditions := by
  induction history generalizing s with
  | nil => exact h
  | cons operation history ih => exact ih (h.step operation)

theorem idle_start (parameters : Parameters) (conditions : Entries Node) :
    (start parameters conditions).Idle parameters conditions :=
  ⟨.start, rfl⟩

/-- What is decided stays decided. -/
theorem decided_after {name : String} {value : Bool} (h : s.decided.get? name = some value)
    (history : List Operation) : (s.after history).decided.get? name = some value := by
  induction history generalizing s with
  | nil => exact h
  | cons operation history ih =>
    refine ih ?_
    cases operation with
    | ask query => exact (s.grows_perform query).decided name value h
    | takeWarnings => exact h

/-- An answer from scratch is the answer of every idle session. -/
theorem Idle.perform_eq {query : Query} {fuel : Nat} {answer : Answer}
    (hs : s.Idle parameters conditions)
    (h : Gives parameters conditions (query.scratch fuel) answer) :
    (s.perform query).1 = answer := by
  obtain ⟨t, ht, -⟩ := h s hs.sound.toServes
  have hbacked : Backed parameters conditions [] s s :=
    ⟨hs.sound.toServes, hs.sound, hs.pending_eq⟩
  obtain ⟨t', ht', -⟩ :=
    query.simulated (follows_backed parameters conditions) fuel s s answer t hbacked ht
  obtain ⟨fuel', hrun⟩ := s.perform_spec query
  rw [eq_of_simulates query.mono hrun ht']

/-- An answer that a new session gives without reporting a cycle is given from
    scratch. -/
theorem gives_of_start (parameters : Parameters) (conditions : Entries Node) (query : Query)
    (h : ¬ ((start parameters conditions).perform query).2.warnings.ReportsCycle) :
    ∃ fuel, Gives parameters conditions (query.scratch fuel)
      ((start parameters conditions).perform query).1 := by
  obtain ⟨fuel, hrun⟩ := (start parameters conditions).perform_spec query
  obtain ⟨-, f, hf⟩ := (query.derives fuel).2 _ _ _ .start hrun h
  exact ⟨f, hf f (Nat.le_refl f)⟩

/-- Two conditions that deny each other, and one that is settled before it asks
    for them. -/
def tangled : Entries Node :=
  [("A", .call "Fn::Not" (.seq [.call "Condition" (.str "B")])),
    ("B", .call "Fn::Not" (.seq [.call "Condition" (.str "A")])),
    ("C", .call "Fn::Or" (.seq [.bool true, .call "Condition" (.str "A")]))]

/-- If a query meets no cycle in a new session, it has the same answer after every
    history. -/
theorem perform_after (parameters : Parameters) (conditions : Entries Node) (query : Query)
    (h : ¬ ((start parameters conditions).perform query).2.warnings.ReportsCycle)
    (history : List Operation) :
    (((start parameters conditions).after history).perform query).1
      = ((start parameters conditions).perform query).1 := by
  obtain ⟨fuel, hgives⟩ := gives_of_start parameters conditions query h
  exact ((idle_start parameters conditions).after history).perform_eq hgives

/-- A choice that meets no cycle, after a cycle was met and its notice taken out. -/
theorem perform_choice_after :
    (((start .empty tangled).after [.ask (.decideNamed "B"), .takeWarnings]).perform
        (.resolve {} (.call "Fn::If" (.seq [.str "C", .str "x", .str "y"])))).1
      = .resolved (.str "x") :=
  perform_after .empty tangled (.resolve {} (.call "Fn::If" (.seq [.str "C", .str "x", .str "y"])))
    (by decide) [.ask (.decideNamed "B"), .takeWarnings]

theorem Idle.decideNamed_eq {name : String} {fuel : Nat} {value : Bool}
    (hs : s.Idle parameters conditions) (h : Value parameters conditions fuel name value) :
    (s.decideNamed name).1 = value := by
  have hgives : Gives parameters conditions ((Query.decideNamed name).scratch fuel)
      (.decided value) := by
    intro u hu
    obtain ⟨t, ht, hserves⟩ := h u hu
    exact ⟨t, bind_eq_some_iff.2 ⟨value, t, ht, rfl⟩, hserves⟩
  exact Answer.decided.inj (hs.perform_eq hgives)

/-- A condition without a value from scratch is remembered when it was decided. -/
theorem Idle.decided_decideNamed {name : String} (hs : s.Idle parameters conditions)
    (hv : ∀ fuel value, ¬ Value parameters conditions fuel name value) :
    (s.decideNamed name).2.decided.get? name = some (s.decideNamed name).1 := by
  have hrun := s.decideNamed_spec name
  generalize s.decideNamed name = first at hrun ⊢
  obtain ⟨value, t⟩ := first
  cases Condition.asked_of_ofName hrun with
  | decided hn => exact hn
  | unknown hn hc =>
    have hrun : Scratch.ofName (Scratch.decide 0) name s
        = some (false, s.note (.conditionUnknown name)) := Scratch.ofName_apply_of_unknown hc
    exact absurd (value_of_run hs.sound.toServes hrun (Nat.le_refl 0)) (hv 0 false)
  | circular hn hc hp =>
    rw [hs.pending_eq] at hp
    exact absurd hp List.not_mem_nil
  | decide => simp [leave, Bindings.get?_insert]

theorem decideNamed_of_decided {name : String} {value : Bool}
    (h : s.decided.get? name = some value) : s.decideNamed name = (value, s) :=
  Option.some.inj ((s.decideNamed_spec name).symm.trans (Condition.ofName_apply_of_decided h))

/-- If deciding a name meets no cycle in a new session, its value is the same after
    any two histories. In any case the value that a session first gives it stays. -/
theorem decideNamed_after (parameters : Parameters) (conditions : Entries Node) (name : String) :
    (¬ ((start parameters conditions).decideNamed name).2.warnings.ReportsCycle →
      ∀ history history', (((start parameters conditions).after history).decideNamed name).1
        = (((start parameters conditions).after history').decideNamed name).1) ∧
    ∀ history history', let first := ((start parameters conditions).after history).decideNamed name
      ((first.2.after history').decideNamed name).1 = first.1 := by
  have hidle (history : List Operation) := (idle_start parameters conditions).after history
  refine ⟨fun h history history' => ?_, fun history history' => ?_⟩
  · obtain ⟨-, fuel, hv⟩ := (ofName_derives ((Scratch.derives _).2 {}) name).2 _ _ _ .start
      (decideNamed_spec (start parameters conditions) name) h
    have hvalue := hv fuel (Nat.le_refl fuel)
    rw [(hidle history).decideNamed_eq hvalue, (hidle history').decideNamed_eq hvalue]
  · have hfirst := hidle history
    by_cases hv : ∃ fuel value, Value parameters conditions fuel name value
    · obtain ⟨fuel, value, hv⟩ := hv
      have hlater := (hfirst.step (.ask (.decideNamed name))).after history'
      exact (hlater.decideNamed_eq hv).trans (hfirst.decideNamed_eq hv).symm
    · -- Without a value from scratch the condition exists, and is remembered.
      have hdecided := hfirst.decided_decideNamed fun fuel value h => hv ⟨fuel, value, h⟩
      show (Session.decideNamed _ name).1 = _
      rw [decideNamed_of_decided (decided_after hdecided history')]

/-- The condition that is settled before it asks for the cycle. -/
theorem decideNamed_tangled_after :
    (((start .empty tangled).after []).decideNamed "C").1
      = (((start .empty tangled).after [.ask (.decideNamed "B")]).decideNamed "C").1 :=
  (decideNamed_after .empty tangled "C").1 (by decide) [] [.ask (.decideNamed "B")]

/-- A condition of the cycle is false if it is asked for first, and true if the
    other one is. -/
theorem decideNamed_after_ne :
    (((start .empty tangled).after []).decideNamed "A").1 = false ∧
      (((start .empty tangled).after [.ask (.decideNamed "B")]).decideNamed "A").1 = true :=
  ⟨rfl, rfl⟩

end Session

end SamTemplate
