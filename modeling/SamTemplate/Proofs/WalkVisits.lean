import Mathlib.Data.List.Basic
import SamTemplate.Entries
import SamTemplate.Resolution.Walk

/-!
# What a walk visits

A walk asks its expander about nodes and tells it of those it cuts off. `Expander.recording` keeps
a record of these calls, whatever the expander does, and `Expander.Walks` is a walk with its visits:
each call with the place, in the tree that comes out, of what becomes of the node. A node in its
new form stays at the place of the old one, and children stand below their container.

* `Expander.exists_walks`, `Expander.Walks.recorded`: every walk has visits, and they are the calls
  that are made;
* `Expander.Walks.bounded`, `Expander.Walks.kept`, `Expander.Walks.eq_of_declined`: the levels of
  the visits, and what they leave in the tree;
* `Expander.walk_visits`: the three of every walk.
-/

namespace SamTemplate

/-! ### Places in a tree -/

namespace Node

/-- The nodes that a node holds, in order. -/
def children : Node → List Node
  | .seq items => items
  | .map entries => entries.map (·.2)
  | _ => []

/-- A node with other nodes in the places of those that it holds. -/
def withChildren : Node → List Node → Node
  | .seq _, results => .seq results
  | .map entries, results => .map ((Entries.keys entries).zip results)
  | leaf, _ => leaf

/-- What is at a place in a tree, given by the positions of the children on the way down to it,
    each counted from zero. -/
def at? : List Nat → Node → Option Node
  | [], node => some node
  | position :: place, node => node.children[position]?.bind (at? place)

theorem withChildren_children (node : Node) : node.withChildren node.children = node := by
  cases node with
  | map entries =>
    have hzip : (Entries.keys entries).zip (entries.map (·.2)) = entries := by
      rw [Entries.keys, List.zip_map', List.map_id'']
      exact fun _ => rfl
    rw [withChildren, children, hzip]
  | _ => rfl

theorem children_withChildren {node : Node} {results : List Node}
    (h : results.length = node.children.length) :
    (node.withChildren results).children = results := by
  cases node with
  | map entries =>
    have hle : results.length ≤ (Entries.keys entries).length := by
      simpa [Entries.keys, children] using Nat.le_of_eq h
    exact List.map_snd_zip hle
  | seq items => rfl
  | _ => exact (List.eq_nil_of_length_eq_zero h).symm

end Node

section

variable {m : Type → Type} [Monad m] [LawfulMonad m]

/-- The values of a mapping are walked one after the other, each under its key. -/
theorem Entries.mapM_values {α β : Type} (f : α → m β) (entries : Entries α) :
    entries.mapM (fun entry => (entry.1, ·) <$> f entry.2)
      = (entries.keys.zip ·) <$> (entries.map (·.2)).mapM f := by
  induction entries with
  | nil => simp
  | cons entry rest ih =>
    rw [List.mapM_cons, ih, List.map_cons, List.mapM_cons]
    simp [Entries.keys]

/-- A level of a walk that is not cut off, where the levels below walk the children of what is
    declined. -/
theorem walkStep_eq_children {expand : Budget → Node → m (Option Node)}
    {cutOff : Budget → Node → m Unit} {below : Budget → Node → m Node} {budget : Budget}
    (h : budget.spent = false) (node : Node) :
    walkStep expand cutOff below budget node = do
      match ← expand budget node with
      | some expanded => below budget.deeper expanded
      | none => return node.withChildren (← node.children.mapM (below budget.deeper)) := by
  unfold walkStep
  rw [h, if_neg Bool.false_ne_true]
  refine bind_congr fun answer => ?_
  cases answer with
  | some expanded => rfl
  | none =>
    cases node with
    | map entries =>
      simp only [bind_pure_comp, Node.withChildren, Node.children]
      rw [Entries.mapM_values, Functor.map_map]
    | seq items => rfl
    | _ => simp [Node.withChildren, Node.children]

end

/-! ### Visits -/

theorem Budget.level_lt_limit {budget : Budget} (h : budget.spent = false) :
    budget.level < budget.limit := by
  simpa [spent] using h

/-- A call that a walk makes of its expander. -/
inductive Call where
  /-- It offers a node and gets this answer. -/
  | offer (budget : Budget) (node : Node) (answer : Option Node)
  /-- It tells of a node that it cuts off. -/
  | cutOff (budget : Budget) (node : Node)

namespace Call

/-- A call is made between the level that a walk starts from and its limit: offers below the limit,
    cuts just at it. -/
def Bounded (start : Budget) : Call → Prop
  | offer budget _ _ =>
    budget.limit = start.limit ∧ start.level ≤ budget.level ∧ budget.level < start.limit
  | cutOff budget _ => budget.limit = start.limit ∧ budget.level = start.limit

/-- What is made within the bounds of a deeper level is made within those of the level. -/
theorem Bounded.of_deeper {start : Budget} {call : Call} (h : call.Bounded start.deeper) :
    call.Bounded start := by
  cases call with
  | offer budget node answer => exact ⟨h.1, Nat.le_of_succ_le h.2.1, h.2.2⟩
  | cutOff budget node => exact h

/-- What a call leaves of its node in the tree: all of it if the node is cut off, and of a container
    that is declined its length or its keys. -/
def Keeps : Call → Node → Prop
  | cutOff _ node, left => left = node
  | offer _ _ (some _), _ => True
  | offer _ (.seq items) none, left =>
    ∃ results, left = .seq results ∧ results.length = items.length
  | offer _ (.map entries) none, left =>
    ∃ results, left = .map results ∧ Entries.keys results = Entries.keys entries
  | offer _ leaf none, left => left = leaf

theorem keeps_withChildren (budget : Budget) {node : Node} {results : List Node}
    (h : results.length = node.children.length) :
    (offer budget node none).Keeps (node.withChildren results) := by
  cases node with
  | seq items => exact ⟨results, rfl, h⟩
  | map entries =>
    have hle : (Entries.keys entries).length ≤ results.length := by
      simpa [Entries.keys, Node.children] using Nat.le_of_eq h.symm
    exact ⟨_, rfl, List.map_fst_zip hle⟩
  | _ => rfl

/-- A call that is not answered with a new form of its node. -/
def Declined : Call → Prop
  | offer _ _ answer => answer = none
  | cutOff _ _ => True

end Call

/-- A call, and the place of what becomes of its node. -/
structure Visit where
  /-- The place, in the tree that comes out. -/
  place : List Nat
  /-- The call. -/
  call : Call

/-- A visit below the child at a position. -/
def Visit.under (position : Nat) (visit : Visit) : Visit :=
  { visit with place := position :: visit.place }

namespace Expander

variable {σ : Type}

/-- The same expander, with a record of the calls that are made of it. -/
def recording (expander : Expander σ) : Expander (σ × List Call) where
  expand budget node := fun (s, calls) =>
    let (answer, t) := expander.expand budget node s
    (answer, t, calls ++ [.offer budget node answer])
  cutOff budget node := fun (s, calls) =>
    let ((), t) := expander.cutOff budget node s
    ((), t, calls ++ [.cutOff budget node])

mutual

/-- A walk of a node with its visits, from a level and a state on: the tree that comes out and the
    state that is left. -/
inductive Walks (expander : Expander σ) : Budget → Node → σ → List Visit → Node → σ → Prop
  /-- No level is left, and the node stays. -/
  | cutOff {budget : Budget} {node : Node} {s t : σ} : budget.spent = true →
      expander.cutOff budget node s = ((), t) →
      Walks expander budget node s [⟨[], .cutOff budget node⟩] node t
  /-- The node is walked in its new form, at the same place. -/
  | expanded {budget : Budget} {node expanded result : Node} {s t u : σ} {visits : List Visit} :
      budget.spent = false → expander.expand budget node s = (some expanded, t) →
      Walks expander budget.deeper expanded t visits result u →
      Walks expander budget node s (⟨[], .offer budget node (some expanded)⟩ :: visits) result u
  /-- The node is declined, and its children are walked. -/
  | declined {budget : Budget} {node : Node} {results : List Node} {s t u : σ}
      {visits : List Visit} :
      budget.spent = false → expander.expand budget node s = (none, t) →
      WalksAll expander budget.deeper 0 node.children t visits results u →
      Walks expander budget node s (⟨[], .offer budget node none⟩ :: visits)
        (node.withChildren results) u

/-- A walk of nodes one after the other, the first of them the child at this position. -/
inductive WalksAll (expander : Expander σ) :
    Budget → Nat → List Node → σ → List Visit → List Node → σ → Prop
  | nil {budget : Budget} {position : Nat} {s : σ} : WalksAll expander budget position [] s [] [] s
  | cons {budget : Budget} {position : Nat} {node result : Node} {rest results : List Node}
      {s t u : σ} {visits visits' : List Visit} : Walks expander budget node s visits result t →
      WalksAll expander budget (position + 1) rest t visits' results u →
      WalksAll expander budget position (node :: rest) s
        (visits.map (Visit.under position) ++ visits') (result :: results) u

end

/-! ### Levels of a walk -/

section

variable {expander : Expander σ} {budget : Budget} {node expanded : Node} {s t : σ}

theorem walk_of_spent (h : budget.spent = true) (hcut : expander.cutOff budget node s = ((), t)) :
    expander.walk budget node s = (node, t) := by
  have hstep : expander.walk budget node = do
      expander.cutOff budget node
      return node := by
    rw [walk]
    cases budget.remaining <;> (rw [walkWithin]; unfold walkStep; rw [if_pos h])
  rw [hstep]
  simp only [bind, StateT.bind, hcut]
  rfl

/-- A level of a walk that is not cut off, and the levels below it. -/
theorem walk_of_not_spent (h : budget.spent = false) (node : Node) :
    expander.walk budget node = do
      match ← expander.expand budget node with
      | some expanded => expander.walk budget.deeper expanded
      | none => return node.withChildren (← node.children.mapM (expander.walk budget.deeper)) := by
  obtain ⟨levels, hlevels⟩ : ∃ levels, budget.remaining = levels + 1 :=
    Nat.exists_eq_add_one.2 (Budget.spent_eq_false_iff.1 h)
  -- Below, one level less is left, which is what a walk there is given.
  have hbelow : expander.walkWithin levels budget.deeper = expander.walk budget.deeper := by
    funext node
    rw [walk, Budget.remaining_deeper, hlevels, Nat.add_sub_cancel]
  rw [walk, hlevels, walkWithin, walkStep_eq_children h, hbelow]

theorem walk_of_expanded (h : budget.spent = false)
    (hanswer : expander.expand budget node s = (some expanded, t)) :
    expander.walk budget node s = expander.walk budget.deeper expanded t := by
  rw [walk_of_not_spent h]
  simp only [bind, StateT.bind, hanswer]

theorem walk_of_declined (h : budget.spent = false)
    (hanswer : expander.expand budget node s = (none, t)) {results : List Node} {u : σ}
    (hchildren : node.children.mapM (expander.walk budget.deeper) t = (results, u)) :
    expander.walk budget node s = (node.withChildren results, u) := by
  rw [walk_of_not_spent h]
  simp only [bind, StateT.bind, hanswer, hchildren]
  rfl

end

/-! ### Visits of a walk -/

/-- Every walk has visits. -/
theorem exists_walks (expander : Expander σ) (budget : Budget) (node : Node) (s : σ) :
    ∃ visits, expander.Walks budget node s visits (expander.walk budget node s).1
      (expander.walk budget node s).2 := by
  -- The tree may grow on the way, so the induction is on the levels that are left.
  induction hlevels : budget.remaining generalizing budget node s with
  | zero =>
    have hspent : budget.spent = true := (Budget.spent_iff budget).2 hlevels
    rw [walk_of_spent hspent rfl]
    exact ⟨_, .cutOff hspent rfl⟩
  | succ levels ih =>
    have hspent : budget.spent = false := Budget.spent_eq_false_iff.2 (by omega)
    have hbelow (node : Node) (s : σ) := ih budget.deeper node s (by
      rw [Budget.remaining_deeper, hlevels, Nat.add_sub_cancel])
    rcases hanswer : expander.expand budget node s with ⟨_ | expanded, t⟩
    · -- The children are walked one level deeper, each from the state that the last one left.
      have hall (position : Nat) (nodes : List Node) (s : σ) :
          ∃ visits, expander.WalksAll budget.deeper position nodes s visits
            (nodes.mapM (expander.walk budget.deeper) s).1
            (nodes.mapM (expander.walk budget.deeper) s).2 := by
        induction nodes generalizing position s with
        | nil => exact ⟨[], .nil⟩
        | cons node rest ih =>
          obtain ⟨visits, hnode⟩ := hbelow node s
          obtain ⟨visits', hrest⟩ := ih (position + 1) (expander.walk budget.deeper node s).2
          rw [List.mapM_cons]
          exact ⟨_, .cons hnode hrest⟩
      obtain ⟨visits, hchildren⟩ := hall 0 node.children t
      rw [walk_of_declined hspent hanswer rfl]
      exact ⟨_, .declined hspent hanswer hchildren⟩
    · obtain ⟨visits, hexpanded⟩ := hbelow expanded t
      rw [walk_of_expanded hspent hanswer]
      exact ⟨_, .expanded hspent hanswer hexpanded⟩

@[simp]
theorem call_under (visits : List Visit) (position : Nat) :
    (visits.map (Visit.under position)).map Visit.call = visits.map Visit.call := by
  rw [List.map_map]
  rfl

section

variable {expander : Expander σ} {budget : Budget} {node : Node} {s t : σ}

theorem recording_expand {answer : Option Node} (h : expander.expand budget node s = (answer, t))
    (calls : List Call) :
    expander.recording.expand budget node (s, calls)
      = (answer, t, calls ++ [.offer budget node answer]) := by
  simp [recording, h]

theorem recording_cutOff (h : expander.cutOff budget node s = ((), t)) (calls : List Call) :
    expander.recording.cutOff budget node (s, calls)
      = ((), t, calls ++ [.cutOff budget node]) := by
  simp [recording, h]

end

variable {expander : Expander σ}

mutual

/-- The visits of a walk are the calls that are made, in their order. -/
theorem Walks.recorded {budget : Budget} {node result : Node} {s t : σ} {visits : List Visit}
    (h : expander.Walks budget node s visits result t) (calls : List Call) :
    expander.recording.walk budget node (s, calls)
      = (result, t, calls ++ visits.map Visit.call) := by
  match h with
  | .cutOff hspent hcut => exact walk_of_spent hspent (recording_cutOff hcut calls)
  | .expanded hspent hanswer hexpanded =>
    rw [walk_of_expanded hspent (recording_expand hanswer calls), hexpanded.recorded,
      List.append_assoc]
    rfl
  | .declined hspent hanswer hchildren =>
    rw [walk_of_declined hspent (recording_expand hanswer calls) (hchildren.recorded _),
      List.append_assoc]
    rfl
termination_by structural h

theorem WalksAll.recorded {budget : Budget} {position : Nat} {nodes results : List Node}
    {s t : σ} {visits : List Visit}
    (h : expander.WalksAll budget position nodes s visits results t) (calls : List Call) :
    nodes.mapM (expander.recording.walk budget) (s, calls)
      = (results, t, calls ++ visits.map Visit.call) := by
  match h with
  | .nil => exact congrArg (fun calls => ([], s, calls)) (List.append_nil calls).symm
  | .cons hnode hrest =>
    rw [List.mapM_cons, List.map_append, call_under, ← List.append_assoc]
    simp only [bind, StateT.bind, hnode.recorded, hrest.recorded]
    rfl
termination_by structural h

end

mutual

/-- The calls of a walk are made at the levels from its own up to the limit. -/
theorem Walks.bounded {budget : Budget} {node result : Node} {s t : σ} {visits : List Visit}
    (h : expander.Walks budget node s visits result t) (hlevel : budget.level ≤ budget.limit) :
    ∀ visit ∈ visits, visit.call.Bounded budget := by
  match h with
  | .cutOff hspent _ =>
    exact List.forall_mem_singleton.2 ⟨rfl, Nat.le_antisymm hlevel (of_decide_eq_true hspent)⟩
  | .expanded hspent _ hexpanded =>
    have hlt := Budget.level_lt_limit hspent
    exact List.forall_mem_cons.2 ⟨⟨rfl, Nat.le_refl _, hlt⟩, fun visit hvisit =>
      (hexpanded.bounded hlt visit hvisit).of_deeper⟩
  | .declined hspent _ hchildren =>
    have hlt := Budget.level_lt_limit hspent
    exact List.forall_mem_cons.2 ⟨⟨rfl, Nat.le_refl _, hlt⟩, fun visit hvisit =>
      (hchildren.bounded hlt visit hvisit).of_deeper⟩
termination_by structural h

theorem WalksAll.bounded {budget : Budget} {position : Nat} {nodes results : List Node}
    {s t : σ} {visits : List Visit}
    (h : expander.WalksAll budget position nodes s visits results t)
    (hlevel : budget.level ≤ budget.limit) :
    ∀ visit ∈ visits, visit.call.Bounded budget := by
  match h with
  | .nil => exact List.forall_mem_nil _
  | .cons hnode hrest =>
    exact List.forall_mem_append.2
      ⟨List.forall_mem_map.2 (hnode.bounded hlevel), hrest.bounded hlevel⟩
termination_by structural h

end

theorem WalksAll.length_eq {budget : Budget} {position : Nat} {nodes results : List Node}
    {s t : σ} {visits : List Visit}
    (h : expander.WalksAll budget position nodes s visits results t) :
    results.length = nodes.length := by
  match h with
  | .nil => rfl
  | .cons _ hrest => exact congrArg (· + 1) hrest.length_eq
termination_by structural h

mutual

/-- What a walk leaves at the places of its visits. -/
theorem Walks.kept {budget : Budget} {node result : Node} {s t : σ} {visits : List Visit}
    (h : expander.Walks budget node s visits result t) :
    ∀ visit ∈ visits, ∃ left, result.at? visit.place = some left ∧ visit.call.Keeps left := by
  match h with
  | .cutOff _ _ => exact List.forall_mem_singleton.2 ⟨node, rfl, rfl⟩
  | .expanded _ _ hexpanded => exact List.forall_mem_cons.2 ⟨⟨result, rfl, trivial⟩, hexpanded.kept⟩
  | .declined _ _ hchildren =>
    have hlength := hchildren.length_eq
    refine List.forall_mem_cons.2 ⟨⟨_, rfl, Call.keeps_withChildren budget hlength⟩, ?_⟩
    intro visit hvisit
    obtain ⟨offset, place, hplace, left, hleft, hkeeps⟩ := hchildren.kept visit hvisit
    -- The children of the result are the results, so the way down leads to the same node.
    refine ⟨left, ?_, hkeeps⟩
    rwa [hplace, Nat.zero_add, Node.at?, Node.children_withChildren hlength]
termination_by structural h

/-- The places of visits below children start with the positions of the children. -/
theorem WalksAll.kept {budget : Budget} {position : Nat} {nodes results : List Node}
    {s t : σ} {visits : List Visit}
    (h : expander.WalksAll budget position nodes s visits results t) :
    ∀ visit ∈ visits, ∃ offset place, visit.place = (position + offset) :: place ∧
      ∃ left, results[offset]?.bind (Node.at? place) = some left ∧ visit.call.Keeps left := by
  match h with
  | .nil => exact List.forall_mem_nil _
  | .cons hnode hrest =>
    refine List.forall_mem_append.2 ⟨List.forall_mem_map.2 fun visit hvisit => ?_, ?_⟩
    -- The first of the results stands at the position itself, the others after it.
    · exact ⟨0, visit.place, rfl, hnode.kept visit hvisit⟩
    · intro visit hvisit
      obtain ⟨offset, place, hplace, hleft⟩ := hrest.kept visit hvisit
      exact ⟨offset + 1, place, by rw [hplace, Nat.add_right_comm, Nat.add_assoc], hleft⟩
termination_by structural h

end

mutual

/-- A walk in which no node is given a new form leaves the tree as it is, also where it is cut
    off. -/
theorem Walks.eq_of_declined {budget : Budget} {node result : Node} {s t : σ}
    {visits : List Visit} (h : expander.Walks budget node s visits result t)
    (hdeclined : ∀ visit ∈ visits, visit.call.Declined) : result = node := by
  match h with
  | .cutOff _ _ => rfl
  | .expanded _ _ _ => exact absurd (List.forall_mem_cons.1 hdeclined).1 (Option.some_ne_none _)
  | .declined _ _ hchildren =>
    rw [hchildren.eq_of_declined (List.forall_mem_cons.1 hdeclined).2, Node.withChildren_children]
termination_by structural h

theorem WalksAll.eq_of_declined {budget : Budget} {position : Nat} {nodes results : List Node}
    {s t : σ} {visits : List Visit}
    (h : expander.WalksAll budget position nodes s visits results t)
    (hdeclined : ∀ visit ∈ visits, visit.call.Declined) : results = nodes := by
  match h with
  | .nil => rfl
  | .cons hnode hrest =>
    obtain ⟨hfirst, hothers⟩ := List.forall_mem_append.1 hdeclined
    have hnode' := hnode.eq_of_declined fun visit hvisit =>
      hfirst (visit.under position) (List.mem_map_of_mem hvisit)
    rw [hnode', hrest.eq_of_declined hothers]
termination_by structural h

end

/-- Whatever an expander does, a walk that starts within its limit has visits, and the calls that
    it makes are those of the visits. Each is made between the level of the start and the limit:
    offers below the limit, cuts just at it. A node that is cut off is at its place in the tree that
    comes out, and a container that is declined keeps its length or its keys there. Where every
    offer is declined, the tree comes out as it went in. -/
theorem walk_visits (expander : Expander σ) (budget : Budget) (node : Node) (s : σ)
    (h : budget.level ≤ budget.limit) :
    ∃ (visits : List Visit) (result : Node) (t : σ),
      expander.walk budget node s = (result, t) ∧
      expander.Walks budget node s visits result t ∧
      expander.recording.walk budget node (s, []) = (result, t, visits.map Visit.call) ∧
      (∀ visit ∈ visits, visit.call.Bounded budget) ∧
      (∀ visit ∈ visits, ∃ left, result.at? visit.place = some left ∧ visit.call.Keeps left) ∧
      ((∀ visit ∈ visits, visit.call.Declined) → result = node) := by
  obtain ⟨visits, hwalks⟩ := expander.exists_walks budget node s
  exact ⟨visits, _, _, rfl, hwalks, hwalks.recorded [], hwalks.bounded h, hwalks.kept,
    hwalks.eq_of_declined⟩

/-- Wraps every node that it is offered, so that the tree grows at every level, and counts the
    calls. -/
def wrapping : Expander Nat where
  expand _ node := fun calls => (some (.seq [node]), calls + 1)
  cutOff _ _ := fun calls => ((), calls + 1)

/-- A tree that grows at every level is cut off at the limit, and the calls are in the record. -/
theorem walk_visits_wrapping :
    0 ≤ 2 ∧ ∃ visits : List Visit,
      wrapping.Walks ⟨0, 2⟩ .null 0 visits (.seq [.seq [.null]]) 3 ∧
      visits.map Visit.call =
        [.offer ⟨0, 2⟩ .null (some (.seq [.null])),
          .offer ⟨1, 2⟩ (.seq [.null]) (some (.seq [.seq [.null]])),
          .cutOff ⟨2, 2⟩ (.seq [.seq [.null]])] ∧
      ∀ visit ∈ visits, visit.call.Bounded ⟨0, 2⟩ := by
  refine ⟨by decide, ?_⟩
  obtain ⟨visits, result, t, hwalk, hwalks, hrecorded, hbounded, -⟩ :=
    wrapping.walk_visits ⟨0, 2⟩ .null 0 (by decide)
  obtain ⟨rfl, rfl⟩ : .seq [.seq [.null]] = result ∧ 3 = t := Prod.mk.inj hwalk
  exact ⟨visits, hwalks, (Prod.mk.inj (Prod.mk.inj hrecorded).2).2.symm, hbounded⟩

end Expander

end SamTemplate
