import Mathlib.Logic.Function.Iterate
import SamTemplate.Proofs.Normal
import SamTemplate.Proofs.Simulation
import SamTemplate.Proofs.Tokens

/-!
# Variables that hide parameters

The variables of a substitution come before the parameters of the same names, but for that
one text only: the text that it builds is walked once more, and then the parameters alone
are looked up. So the value of a parameter that is hidden by a variable plays no part in
the text that is built (`Session.sub_of_agreeBut`), and none in the result, unless a token
of its name is left or arises in that text.

* `interpolate_congr`: a text depends on the parameters that it has tokens of;
* `Resolution.resolve_str`: resolving a text interpolates it as often as levels are left.
-/

namespace SamTemplate

/-! ### Tokens of a text -/

/-- A text has a token of the name. -/
def HasToken (name text : String) : Prop :=
  name ≠ "" ∧ (∀ c ∈ name.toList, isNameChar c = true) ∧ tokenOf name.toList <:+: text.toList

/-- Only a text with a dollar sign has tokens. -/
theorem HasToken.mem {name text : String} (h : HasToken name text) : '$' ∈ text.toList :=
  h.2.2.subset List.mem_cons_self

/-- Values that agree on the names that a text has tokens of give the same text. -/
theorem interpolateFrom_congr {v w : List Char → Option String} {text : List Char}
    (h : ∀ name, name ≠ [] → (∀ c ∈ name, isNameChar c = true) → tokenOf name <:+: text →
      v name = w name) (skip : Nat) :
    interpolateFrom v skip text = interpolateFrom w skip text := by
  induction text generalizing skip with
  | nil => cases skip <;> rfl
  | cons c rest ih =>
    have hrest := ih fun name hne hchars htoken =>
      h name hne hchars (htoken.trans (List.infix_cons List.infix_rfl))
    cases skip with
    | succ skip => exact hrest skip
    | zero =>
      rw [interpolateFrom, interpolateFrom]
      cases hname : tokenName? (c :: rest) with
      | none => exact congrArg (c :: ·) (hrest 0)
      | some name =>
        obtain ⟨⟨hne, hchars⟩, htoken⟩ := tokenName?_eq_some hname
        dsimp only
        rw [h name hne hchars htoken.isInfix, hrest]

/-- Parameters that agree on all names but one. -/
def Parameters.AgreeBut (name : String) (p q : Parameters) : Prop :=
  ∀ other, other ≠ name → p.get? other = q.get? other

variable {name text : String} {p q : Parameters}

theorem interpolate_congr (h : p.AgreeBut name q) (htoken : ¬ HasToken name text) :
    interpolate p text = interpolate q text := by
  refine congrArg String.ofList (interpolateFrom_congr (fun chars hne hchars hinfix => ?_) 0)
  have hother : String.ofList chars ≠ name := by
    rintro rfl
    exact htoken ⟨by simpa using hne, by simpa using hchars, by simpa using hinfix⟩
  simp only [Parameters.valueOf?, h _ hother]

theorem iterate_interpolate_congr (h : p.AgreeBut name q) {n : Nat}
    (htoken : ∀ k < n, ¬ HasToken name ((interpolate p)^[k] text)) :
    (interpolate p)^[n] text = (interpolate q)^[n] text := by
  induction n with
  | zero => rfl
  | succ n ih =>
    have hn := ih fun k hk => htoken k (by omega)
    rw [Function.iterate_succ_apply', Function.iterate_succ_apply', ← hn]
    exact interpolate_congr h (htoken n (by omega))

/-! ### Scopes -/

/-- Binding the same pairs makes maps agree on the keys that are bound. -/
theorem Bindings.get?_insertAll_congr {α : Type} {a b : Bindings α} {pairs : Entries α}
    {key : String} (h : a.get? key = b.get? key ∨ key ∈ pairs.keys) :
    (a.insertAll pairs).get? key = (b.insertAll pairs).get? key := by
  induction pairs generalizing a b with
  | nil => exact h.resolve_right (by simp [Entries.keys])
  | cons pair rest ih =>
    -- Once the key is bound on both sides, the maps agree on it and go on doing so.
    refine @ih (a.insert pair.1 pair.2) (b.insert pair.1 pair.2) ?_
    rw [get?_insert, get?_insert]
    by_cases hkey : pair.1 = key
    · exact .inl (by simp [hkey])
    · simpa [hkey, Entries.keys, Ne.symm hkey] using h

/-- Variables that hide the one parameter that parameters do not agree on make the scopes
    equal. -/
theorem Parameters.AgreeBut.insertAll_eq (h : p.AgreeBut name q) {pairs : Entries String}
    (hmem : name ∈ pairs.keys) : p.insertAll pairs = q.insertAll pairs := by
  refine Bindings.ext_get? fun key => Bindings.get?_insertAll_congr ?_
  by_cases hkey : key = name
  · exact .inr (hkey ▸ hmem)
  · exact .inl (h key hkey)

/-! ### Texts that are walked -/

open Evaluation

namespace Resolution

/-- Resolving a text interpolates it once on each level that is left. -/
theorem resolve_str {fuel : Nat} {budget : Budget} {s t : Session} {value : Node}
    (h : resolve fuel budget (.str text) s = some (value, t)) :
    value = .str ((interpolate s.parameters)^[budget.remaining] text) := by
  induction fuel generalizing budget text with
  | zero => exact nomatch h
  | succ fuel ih =>
    cases resolved_of_resolve h with
    | spent hs =>
      rw [budget.spent_iff.1 hs]
      rfl
    | expanded hs hexpand hrest =>
      rw [expand, Intrinsic.expand_str_apply] at hexpand
      split_ifs at hexpand
      · exact nomatch hexpand
      · cases hexpand
        have hlevel : budget.remaining - 1 + 1 = budget.remaining :=
          Nat.sub_add_cancel (Budget.spent_eq_false_iff.1 hs)
        rw [ih hrest, Budget.remaining_deeper, ← Function.iterate_succ_apply,
          Nat.succ_eq_add_one, hlevel]
    | leaf hs hexpand _ _ =>
      rw [expand, Intrinsic.expand_str_apply] at hexpand
      split_ifs at hexpand with hfixed
      · -- A text that stays as it is stays so on each level.
        rw [Function.iterate_fixed hfixed]
      · exact nomatch hexpand

theorem resolveAt_eq {fuel : Nat} {budget : Budget} {node : Node} {s : Session}
    {result : Node × Session} (h : resolve fuel budget node s = some result) :
    s.resolveAt budget node = result :=
  eq_of_simulates (x := fun fuel => resolve fuel budget node)
    (fun f g hfg => (mono f g hfg).1 budget node) (s.resolveAt_spec budget node) h

end Resolution

namespace Session

variable {budget : Budget} {s s' t : Session} {template : String} {locals : Entries Node}

/-- The texts that nodes resolve to, one after the other, from a level on. -/
def resolveTexts (session : Session) (budget : Budget) : List Node → List String × Session
  | [] => ([], session)
  | node :: rest =>
    let (value, next) := session.resolveAt budget node
    let (texts, last) := next.resolveTexts budget rest
    (value.text :: texts, last)

theorem length_resolveTexts (s : Session) (budget : Budget) (nodes : List Node) :
    (s.resolveTexts budget nodes).1.length = nodes.length := by
  induction nodes generalizing s with
  | nil => rfl
  | cons node rest ih => exact congrArg (· + 1) (ih (s.resolveAt budget node).2)

/-- The scope of a substitution with variables, in which the variables hide parameters. -/
def scope (session : Session) (budget : Budget) (locals : Entries Node) : Parameters :=
  session.parameters.insertAll
    (locals.keys.zip (session.resolveTexts budget (locals.map (·.2))).1)

theorem bindVariables_eq {fuel : Nat} {result : Parameters}
    (h : Intrinsic.bindVariables (Resolution.resolve fuel budget) p locals s = some (result, t)) :
    result = p.insertAll (locals.keys.zip (s.resolveTexts budget (locals.map (·.2))).1) := by
  induction locals generalizing p s with
  | nil =>
    cases h
    rfl
  | cons entry rest ih =>
    obtain ⟨key, value⟩ := entry
    rw [Intrinsic.bindVariables] at h
    obtain ⟨text, u, htext, hrest⟩ := bind_eq_some_iff.1 h
    obtain ⟨node, u', hnode, hpure⟩ := bind_eq_some_iff.1 htext
    obtain ⟨rfl, rfl⟩ := pure_eq_some_iff.1 hpure
    rw [ih hrest, List.map_cons, resolveTexts, Resolution.resolveAt_eq hnode]
    rfl

/-- The call of a substitution with variables. -/
def subCall (template : String) (locals : Entries Node) : Node :=
  .call Intrinsic.sub.name (.seq [.str template, .map locals])

/-- A substitution with variables builds the text that its scope gives. -/
theorem expand_subCall {fuel : Nat} {expanded : Option Node} (ht : template ≠ "")
    (h : Resolution.expand fuel budget (subCall template locals) s = some (expanded, t)) :
    expanded = some (.str (interpolate (s.scope budget.deeper locals) template)) := by
  have hcall : (subCall template locals).intrinsic?
      = some (.sub, .seq [.str template, .map locals]) := Node.intrinsic?_eq_some_iff.2 rfl
  rw [Resolution.expand, Intrinsic.expand_of_intrinsic? hcall, Intrinsic.apply, Intrinsic.applySub,
    if_neg ht] at h
  rw [get_bind_apply] at h
  obtain ⟨result, u, hbind, hpure⟩ := bind_eq_some_iff.1 h
  obtain ⟨rfl, -⟩ := pure_eq_some_iff.1 hpure
  rw [bindVariables_eq hbind]
  rfl

theorem expandAt_subCall (ht : template ≠ "") :
    (s.expandAt budget (subCall template locals)).1
      = some (.str (interpolate (s.scope budget.deeper locals) template)) :=
  expand_subCall ht (s.expandAt_spec budget (subCall template locals))

/-- A substitution with variables resolves to itself where no level is left, and else to the
    text that it builds, interpolated on each level that is left. -/
theorem resolveAt_subCall (ht : template ≠ "") :
    (s.resolveAt budget (subCall template locals)).1
      = if budget.spent then subCall template locals
        else .str ((interpolate s.parameters)^[budget.remaining - 1]
          (interpolate (s.scope budget.deeper locals) template)) := by
  have hrun := s.resolveAt_spec budget (subCall template locals)
  generalize s.resolveAt budget (subCall template locals) = result at hrun ⊢
  obtain ⟨value, t⟩ := result
  obtain ⟨fuel, hfuel⟩ := s.exists_nesting_eq budget
  rw [hfuel] at hrun
  cases Resolution.resolved_of_resolve hrun with
  | spent hs => rw [if_pos hs]
  | expanded hs hexpand hrest =>
    obtain ⟨rfl⟩ := Option.some.inj (expand_subCall ht hexpand)
    have hparameters := (Resolution.expand_grows fuel budget _ _ _ _ hexpand).parameters
    rw [if_neg (by simp [hs]), Resolution.resolve_str hrest, hparameters,
      Budget.remaining_deeper]
  | map hs hexpand _ => exact nomatch expand_subCall ht hexpand
  | leaf hs hexpand _ _ => exact nomatch expand_subCall ht hexpand

/-- The scopes of a substitution are equal if all that the parameters do not agree on is hidden
    by a variable. -/
theorem scope_eq_of_agreeBut (h : s.parameters.AgreeBut name s'.parameters)
    (hname : name ∈ locals.keys)
    (htexts : (s.resolveTexts budget (locals.map (·.2))).1
      = (s'.resolveTexts budget (locals.map (·.2))).1) :
    s.scope budget locals = s'.scope budget locals := by
  rw [scope, scope, ← htexts]
  have hkeys : (locals.keys.zip (s.resolveTexts budget (locals.map (·.2))).1).map (·.1)
      = locals.keys :=
    List.map_fst_zip (by simp [length_resolveTexts, Entries.keys])
  refine h.insertAll_eq ?_
  rw [Entries.keys, hkeys]
  exact hname

/-- Parameters that agree on all names but one, which is hidden by a variable: if the values
    of the variables resolve to the same texts, the substitution builds the same text. If
    furthermore no token of the name is in that text or in what becomes of it on a level
    below, the substitution resolves to the same. -/
theorem sub_of_agreeBut (h : s.parameters.AgreeBut name s'.parameters) (hname : name ∈ locals.keys)
    (ht : template ≠ "")
    (htexts : (s.resolveTexts budget.deeper (locals.map (·.2))).1
      = (s'.resolveTexts budget.deeper (locals.map (·.2))).1) :
    let built := interpolate (s.scope budget.deeper locals) template
    (s.expandAt budget (subCall template locals)).1 = some (.str built) ∧
      (s'.expandAt budget (subCall template locals)).1 = some (.str built) ∧
      ((∀ k, k + 1 < budget.remaining → ¬ HasToken name ((interpolate s.parameters)^[k] built)) →
        (s.resolveAt budget (subCall template locals)).1
          = (s'.resolveAt budget (subCall template locals)).1) := by
  intro built
  have hscope : s.scope budget.deeper locals = s'.scope budget.deeper locals :=
    scope_eq_of_agreeBut h hname htexts
  refine ⟨expandAt_subCall ht, ?_, fun htoken => ?_⟩
  · rw [expandAt_subCall ht, ← hscope]
  · rw [resolveAt_subCall ht, resolveAt_subCall ht, ← hscope,
      iterate_interpolate_congr h fun k hk => htoken k (by omega)]

/-- Sessions with two values of a parameter. -/
def valued (name value : String) : Session := start (.ofList [(name, value)]) []

theorem agreeBut_valued (name value value' : String) :
    (valued name value).parameters.AgreeBut name (valued name value').parameters := by
  intro other hother
  simp [valued, start, Bindings.ofList, Bindings.insertAll, Bindings.get?_insert, Ne.symm hother]

/-- A parameter that is hidden and has no token in the text that is built. -/
theorem sub_hidden :
    let locals : Entries Node := [("A", .call "Ref" (.str "B")), ("L", .str "inner")]
    (valued "L" "x").parameters.AgreeBut "L" (valued "L" "z").parameters ∧ "L" ∈ locals.keys ∧
      ((valued "L" "x").resolveAt {} (subCall "$\x7bA\x7d/$\x7bL\x7d" locals)).1
        = ((valued "L" "z").resolveAt {} (subCall "$\x7bA\x7d/$\x7bL\x7d" locals)).1 := by
  intro locals
  have hname : "L" ∈ locals.keys := by decide
  have hbuilt : interpolate ((valued "L" "x").scope (Budget.deeper {}) locals)
      "$\x7bA\x7d/$\x7bL\x7d" = "B/inner" := rfl
  have hfixed : interpolate (valued "L" "x").parameters "B/inner" = "B/inner" := rfl
  have hnone : ¬ HasToken "L" "B/inner" := fun h => absurd h.mem (by decide)
  obtain ⟨-, -, hsame⟩ :=
    @sub_of_agreeBut "L" {} (valued "L" "x") (valued "L" "z") "$\x7bA\x7d/$\x7bL\x7d" locals
      (agreeBut_valued "L" "x" "z") hname (by decide) rfl
  refine ⟨agreeBut_valued "L" "x" "z", hname, hsame fun k _ => ?_⟩
  rw [hbuilt, Function.iterate_fixed hfixed]
  exact hnone

/-- The value of a hidden parameter shows where a token of its name arises in the text that
    is built, and where there is no text to put values into. -/
theorem sub_shown :
    let forming : Entries Node := [("A", .str "$"), ("L", .str "z")]
    let naming : Entries Node := [("Ref", .str "Ref")]
    (((valued "L" "x").resolveTexts (Budget.deeper {}) (forming.map (·.2))).1
        = ((valued "L" "z").resolveTexts (Budget.deeper {}) (forming.map (·.2))).1 ∧
      ((valued "L" "x").resolve (subCall "$\x7bA\x7d\x7bL\x7d" forming)).1 = .str "x" ∧
      ((valued "L" "z").resolve (subCall "$\x7bA\x7d\x7bL\x7d" forming)).1 = .str "z" ∧
      ((valued "L" "x").resolve (subCall "$\x7bA\x7d\x7bL\x7d" forming)).2.warnings = .empty ∧
      ((valued "L" "z").resolve (subCall "$\x7bA\x7d\x7bL\x7d" forming)).2.warnings = .empty) ∧
    ((valued "Ref" "x").resolveTexts (Budget.deeper {}) (naming.map (·.2))).1
        = ((valued "Ref" "z").resolveTexts (Budget.deeper {}) (naming.map (·.2))).1 ∧
      ((valued "Ref" "x").resolve (subCall "" naming)).1
        = .call Intrinsic.sub.name (.seq [.str "", .str "x"]) ∧
      ((valued "Ref" "z").resolve (subCall "" naming)).1
        = .call Intrinsic.sub.name (.seq [.str "", .str "z"]) :=
  ⟨⟨rfl, rfl, rfl, rfl, rfl⟩, rfl, rfl, rfl⟩

end Session

end SamTemplate
