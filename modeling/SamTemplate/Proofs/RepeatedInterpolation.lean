import Mathlib.Data.ENat.Lattice
import Mathlib.Data.Nat.Find
import SamTemplate.Proofs.Shadowing

/-!
# Texts that are interpolated again and again

What is put into a text by interpolation may have tokens itself, so a walk offers the new text
again, one level deeper, until it stays as it is or no level is left. How often that takes may be
any number, and a parameter that goes back to itself may keep a text from ever coming to rest
(`Parameters.rounds`).

* `Parameters.rounds_eq_succ`: a text that changes takes one round more than what it changes to;
* `Session.resolveAt_str`: what a text is resolved to on each level, and when that is noted to be
  cut off.
-/

namespace SamTemplate

namespace Parameters

variable {parameters : Parameters} {text : String}

/-- After so many rounds of interpolation a text stays as it is. -/
def RestsAfter (parameters : Parameters) (text : String) (k : ℕ) : Prop :=
  (interpolate parameters)^[k + 1] text = (interpolate parameters)^[k] text

instance (parameters : Parameters) (text : String) : DecidablePred (RestsAfter parameters text) :=
  fun _ => inferInstanceAs (Decidable (_ = _))

open Classical in
/-- The least number of rounds of interpolation after which a text stays as it is, or `⊤` if there
    is none. -/
noncomputable def rounds (parameters : Parameters) (text : String) : ℕ∞ :=
  if h : ∃ k, RestsAfter parameters text k then (Nat.find h : ℕ) else ⊤

theorem rounds_eq_zero (h : interpolate parameters text = text) : rounds parameters text = 0 := by
  have hrests : RestsAfter parameters text 0 := h
  rw [rounds, dif_pos ⟨0, hrests⟩, (Nat.find_eq_zero _).2 hrests]
  rfl

/-- A text that changes takes one round more than the text it changes to. -/
theorem rounds_eq_succ (h : interpolate parameters text ≠ text) :
    rounds parameters text = rounds parameters (interpolate parameters text) + 1 := by
  have hchanges : ¬ RestsAfter parameters text 0 := h
  by_cases hrests : ∃ k, RestsAfter parameters (interpolate parameters text) k
  · have hrests' : ∃ k, RestsAfter parameters text k := hrests.imp' (· + 1) fun _ => id
    rw [rounds, rounds, dif_pos hrests, dif_pos hrests',
      Nat.find_comp_succ hrests' hrests hchanges]
    rfl
  · have hnever : ¬ ∃ k, RestsAfter parameters text k := by
      rintro ⟨_ | k, hk⟩
      · exact hchanges hk
      · exact hrests ⟨k, hk⟩
    rw [rounds, rounds, dif_neg hrests, dif_neg hnever]
    rfl

/-- Rounds beyond those that a text takes change nothing. -/
theorem iterate_min_rounds (parameters : Parameters) (text : String) (levels : ℕ) :
    (interpolate parameters)^[(min (rounds parameters text) levels).toNat] text
      = (interpolate parameters)^[levels] text := by
  by_cases hrests : ∃ k, RestsAfter parameters text k
  · have hrest : RestsAfter parameters text (Nat.find hrests) := Nat.find_spec hrests
    rw [rounds, dif_pos hrests]
    generalize Nat.find hrests = k at hrest
    rcases Nat.le_total k levels with hle | hle
    · have hfixed : interpolate parameters ((interpolate parameters)^[k] text)
          = (interpolate parameters)^[k] text :=
        (Function.iterate_succ_apply' _ k text).symm.trans hrest
      rw [min_eq_left (Nat.cast_le.2 hle), ENat.toNat_natCast, ← Nat.sub_add_cancel hle,
        Function.iterate_add_apply, Function.iterate_fixed hfixed]
    · rw [min_eq_right (Nat.cast_le.2 hle), ENat.toNat_natCast]
  · rw [rounds, dif_neg hrests, min_eq_right le_top, ENat.toNat_natCast]

end Parameters

open Parameters

/-- Resolving a text notes that the limit is met if the text takes as many rounds as levels are
    left, or more, and does nothing else to the session. -/
theorem Resolution.resolve_str_session {fuel : ℕ} {budget : Budget} {s t : Session} {text : String}
    {value : Node} (h : resolve fuel budget (.str text) s = some (value, t)) :
    t = if budget.remaining ≤ rounds s.parameters text then s.note (.depthExceeded budget.limit)
      else s := by
  induction fuel generalizing budget text with
  | zero => cases h
  | succ fuel ih =>
    cases resolved_of_resolve h with
    | spent hspent =>
      rw [budget.spent_iff.1 hspent, Nat.cast_zero, if_pos zero_le]
    | expanded hspent hexpand hrest =>
      rw [expand, Intrinsic.expand_str_apply] at hexpand
      split_ifs at hexpand with hfixed
      · cases hexpand
      · cases hexpand
        obtain ⟨levels, hlevels⟩ : ∃ levels, budget.remaining = levels + 1 :=
          Nat.exists_eq_add_one.2 (Budget.spent_eq_false_iff.1 hspent)
        -- One level less is left for one round less.
        have hle : ((levels + 1 : ℕ) : ℕ∞) ≤ rounds s.parameters text
            ↔ levels ≤ rounds s.parameters (interpolate s.parameters text) := by
          rw [rounds_eq_succ hfixed, Nat.cast_add_one]
          exact ENat.add_le_add_iff_right ENat.one_ne_top
        have hbelow := ih hrest
        rw [Budget.remaining_deeper, hlevels, Nat.add_sub_cancel] at hbelow
        rw [hbelow, hlevels]
        simp only [hle]
        rfl
    | leaf hspent hexpand _ _ =>
      rw [expand, Intrinsic.expand_str_apply] at hexpand
      split_ifs at hexpand with hfixed
      · cases hexpand
        have hpos : ¬ (budget.remaining : ℕ∞) ≤ 0 := by
          simpa using (Budget.spent_eq_false_iff.1 hspent).ne'
        rw [rounds_eq_zero hfixed, if_neg hpos]
      · cases hexpand

namespace Session

/-- A text is resolved to what becomes of it in its rounds of interpolation, as far as the levels
    that are left allow. If they do not allow one more round than it takes, it is noted that the
    limit is met; nothing else happens to the session. -/
theorem resolveAt_str (s : Session) (budget : Budget) (text : String) :
    s.resolveAt budget (.str text) =
      (.str ((interpolate s.parameters)^[(min (s.parameters.rounds text)
          ↑(budget.limit - budget.level)).toNat] text),
        if ↑(budget.limit - budget.level) ≤ s.parameters.rounds text then
          s.note (.depthExceeded budget.limit)
        else s) := by
  have hrun := s.resolveAt_spec budget (.str text)
  rw [iterate_min_rounds]
  exact Prod.ext (Resolution.resolve_str hrun) (Resolution.resolve_str_session hrun)

/-- A parameter that stands for another one. -/
def handedOn : Parameters := .ofList [("Stage", "$\x7bTarget\x7d"), ("Target", "prod")]

/-- On the last of two levels the text comes to rest after its two rounds, but nobody sees it: that
    takes a third level. -/
example : (start handedOn []).resolveAt ⟨18, 20⟩ (.str "$\x7bStage\x7d")
      = (.str "prod", (start handedOn []).note (.depthExceeded 20)) ∧
    (start handedOn []).resolveAt ⟨17, 20⟩ (.str "$\x7bStage\x7d")
      = (.str "prod", start handedOn []) :=
  ⟨rfl, rfl⟩

end Session

end SamTemplate
