import SamTemplate.Proofs.Refinement

/-!
# Resolving twice

The result of a quiet run is normal, since it is what the node means, and has no
more levels than the budget had. So resolving it again, with the same budget,
finds nothing to expand and does not get too deep.

* `Session.resolveAt_idempotent`: after a quiet run resolving again changes
  nothing and says nothing, and a normal tree is given back in every session.
-/

namespace SamTemplate

namespace Session

open Resolution

variable {parameters : Parameters} {conditions : Entries Node} {budget : Budget} {node : Node}
  {s : Session}

/-- The result of a quiet run is normal and has no more levels than the budget. -/
theorem normal_within_of_quiet
    (h : ((start parameters conditions).resolveAt budget node).2.warnings = .empty) :
    ((start parameters conditions).resolveAt budget node).1.Normal parameters ∧
      ((start parameters conditions).resolveAt budget node).1.Within budget.remaining := by
  have hrun := resolveAt_spec (start parameters conditions) budget node
  obtain ⟨-, hm⟩ := ((Resolution.ensures parameters conditions _).1 budget node).2 _ _ _ .start
    hrun h
  exact ⟨hm.normal, ((resolve_within _ budget node).2 _ _ _ trivial hrun h).2⟩

/-- A normal tree within the budget is resolved to itself in silence. -/
theorem resolveAt_eq_of_within (hn : node.Normal s.parameters) (hw : node.Within budget.remaining) :
    s.resolveAt budget node = (node, s) := by
  have hr := resolve_normal_within hn hw (Nat.le_refl _)
    (show budget.remaining ≤ s.nesting budget by rw [nesting]; omega)
  exact Option.some.inj ((resolveAt_spec s budget node).symm.trans hr)

/-- After a quiet run in a new session the result is normal, and resolving it
    again gives it back in silence, both there and in another new session. A
    normal tree of any height is given back in every session, in which nothing
    but the notices can change. -/
theorem resolveAt_idempotent (parameters : Parameters) (conditions : Entries Node)
    (budget : Budget) :
    (∀ node, ((start parameters conditions).resolveAt budget node).2.warnings = .empty →
      ∃ result s, (start parameters conditions).resolveAt budget node = (result, s) ∧
        result.Normal parameters ∧ s.resolveAt budget result = (result, s) ∧
        (start parameters conditions).resolveAt budget result
          = (result, start parameters conditions)) ∧
    ∀ (s : Session) node, node.Normal s.parameters →
      (s.resolveAt budget node).1 = node ∧
      (s.resolveAt budget node).2
        = { s with warnings := (s.resolveAt budget node).2.warnings } := by
  refine ⟨fun node hq => ?_, fun s node hn => resolve_normal hn (resolveAt_spec s budget node)⟩
  have hrun := resolveAt_spec (start parameters conditions) budget node
  obtain ⟨hn, hw⟩ := normal_within_of_quiet hq
  -- The session that is left behind has the same parameters, under which the result is normal.
  have hp := (((grows _).1 budget node) _ _ _ hrun).parameters
  exact ⟨_, _, rfl, hn, resolveAt_eq_of_within (hp ▸ hn) hw, resolveAt_eq_of_within hn hw⟩

/-- A call that names a parameter, and a tree that is too high for its budget. -/
theorem resolveAt_ref_twice :
    (∃ result s, (start (Bindings.empty.insert "Stage" "prod") []).resolveAt {}
        (.seq [.call "Ref" (.str "Stage")]) = (result, s) ∧
      result.Normal (Bindings.empty.insert "Stage" "prod") ∧
      s.resolveAt {} result = (result, s) ∧
      (start (Bindings.empty.insert "Stage" "prod") []).resolveAt {} result
        = (result, start (Bindings.empty.insert "Stage" "prod") [])) ∧
    ((start .empty []).resolveAt { limit := 1 } (.seq [.seq [.null]])).1 = .seq [.seq [.null]] :=
  ⟨(resolveAt_idempotent (Bindings.empty.insert "Stage" "prod") [] {}).1
      (.seq [.call "Ref" (.str "Stage")]) (by decide),
    ((resolveAt_idempotent .empty [] { limit := 1 }).2 (start .empty []) (.seq [.seq [.null]])
      (.seq (by simpa using .seq (by simpa using .null)))).1⟩

end Session

end SamTemplate
