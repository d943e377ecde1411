import SamTemplate.Proofs.Agreement
import SamTemplate.Proofs.History

/-!
# What is noted

A session notes what it meets while a condition is decided, and is silent when the
condition is remembered later on. Deciding from scratch, the same is noted again and
again, which makes no difference as every notice counts once. So if no cycle is met,
the notices of a new session are those that are made from scratch, and these depend
on the template only:

* `Scratch.determined`: resolving or deciding from scratch fails in all sessions of a
  template, or gives the same and notes the same in all of them;
* `Scratch.follows_mirrors`: a session that remembers has the notices of one in which
  everything is decided from scratch;
* `Session.perform_of_yields`: what is given and noted from scratch is what a new
  session answers and notes.
-/

namespace SamTemplate

open Evaluation

namespace Evaluation

variable {α β : Type} {parameters : Parameters} {conditions : Entries Node}

/-- A computation fails in all sessions of a template, or gives and notes the same in
    all of them. -/
def Determined (parameters : Parameters) (conditions : Entries Node) (x : Evaluation α) : Prop :=
  Fails parameters conditions x ∨ ∃ a noted, Yields parameters conditions x a noted

theorem Determined.congr {x y : Evaluation α} (h : Determined parameters conditions x)
    (hxy : ∀ s : Session, s.Serves parameters conditions → y s = x s) :
    Determined parameters conditions y :=
  Or.imp (·.congr hxy) (fun ⟨a, noted, ha⟩ => ⟨a, noted, ha.congr hxy⟩) h

theorem compositional_determined (parameters : Parameters) (conditions : Entries Node) :
    CompositionalOne fun _ x => Determined parameters conditions x where
  pure a := .inr ⟨a, ∅, .pure a⟩
  bind {_ _ _ f} hx hf := by
    rcases hx with hx | ⟨a, noted, hx⟩
    · exact .inl (hx.bind (f ()))
    · rcases hf a with hfail | ⟨b, noted', hb⟩
      · exact .inl (hx.bind_fails hfail)
      · exact .inr ⟨b, noted ∪ noted', hx.bind hb⟩
  note notice := .inr ⟨(), {notice.message}, .note notice⟩
  read {_ f} hf := Determined.congr (hf parameters) fun s hs => by
    change f () s.parameters s = f () parameters s
    rw [hs.parameters_eq]

/-- A run of a determined computation shows what it yields. -/
theorem Determined.yields_of_run {x : Evaluation α} {a : α} {s t : Session}
    (h : Determined parameters conditions x) (hs : s.Serves parameters conditions)
    (hx : x s = some (a, t)) : ∃ noted, Yields parameters conditions x a noted ∧
      ∀ m, m ∈ t.warnings.messages ↔ m ∈ s.warnings.messages ∨ m ∈ noted := by
  rcases h with hfail | ⟨b, noted, hb⟩
  · rw [hfail s hs] at hx
    exact nomatch hx
  · obtain ⟨rfl, -, hnoted⟩ := hb.of_run hs hx
    exact ⟨noted, hb, hnoted⟩

/-- A computation that another one simulates notes the same. -/
theorem Yields.noted_eq {x y : Evaluation α} {a b : α} {noted noted' : Set String}
    (h : Simulates Eq x y) (hx : Yields parameters conditions x a noted)
    (hy : Yields parameters conditions y b noted') : noted = noted' := by
  have hs := Session.serves_start parameters conditions
  obtain ⟨t, ht, -, hnoted⟩ := hx _ hs
  obtain ⟨-, -, hnoted'⟩ := hy.of_run hs (h.eq_some ht)
  ext m
  have hiff := (hnoted m).symm.trans (hnoted' m)
  simpa [Session.start, Warnings.empty] using hiff

end Evaluation

namespace Scratch

variable {parameters : Parameters} {conditions : Entries Node} {name : String} {s t : Session}
  {f g : Nat}

theorem ofName_determined {decide : Budget → Node → Evaluation Bool}
    (hd : ∀ node, Determined parameters conditions (decide {} node)) (name : String) :
    Determined parameters conditions (ofName decide name) := by
  cases hc : conditions.get? name with
  | none =>
    exact ((compositional_determined parameters conditions).deny _).congr fun s hs =>
      ofName_apply_of_unknown (hs.conditions_eq ▸ hc)
  | some expression =>
    exact (hd expression).congr fun s hs => ofName_apply (hs.conditions_eq ▸ hc)

/-- What is given and noted from scratch does not depend on the session. -/
theorem determined (fuel : Nat) :
    (∀ budget node, Determined parameters conditions (resolve fuel budget node)) ∧
      ∀ budget node, Determined parameters conditions (decide fuel budget node) := by
  induction fuel with
  | zero => exact ⟨fun _ _ => .inl fun _ _ => rfl, fun _ _ => .inl fun _ _ => rfl⟩
  | succ fuel ih =>
    have hP := compositional_determined parameters conditions
    have hname := ofName_determined (ih.2 {})
    exact ⟨fun budget node => hP.resolveLevel (fun _ => ih.1 _) (fun _ => hname) node,
      fun budget node => hP.decideLevel (fun _ => ih.1 _) (fun _ => ih.2 _) (fun _ => hname) node⟩

/-- Deciding a name notes the same, whatever the fuel. -/
theorem noted_unique {value value' : Bool} {noted noted' : Set String}
    (h : Yields parameters conditions (ofName (decide f) name) value noted)
    (h' : Yields parameters conditions (ofName (decide g) name) value' noted') :
    noted = noted' := by
  rcases Nat.le_total f g with hle | hle
  · exact h.noted_eq (ofName_mono comparable_eq (fun _ _ h => h ▸ rfl) hle name) h'
  · exact (h'.noted_eq (ofName_mono comparable_eq (fun _ _ h => h ▸ rfl) hle name) h).symm

/-- A session in which something is evaluated from scratch, and a sound one with the
    same notices, among which are all that deciding what it remembers makes. -/
structure Mirrors (parameters : Parameters) (conditions : Entries Node) (pending : List String)
    (s t : Session) : Prop extends Backed parameters conditions pending s t where
  messages : ∀ m, m ∈ s.warnings.messages ↔ m ∈ t.warnings.messages
  told : ∀ {name value fuel noted}, t.decided.get? name = some value →
    Yields parameters conditions (ofName (decide fuel) name) value noted →
    ∀ m ∈ noted, m ∈ t.warnings.messages

theorem follows_mirrors (parameters : Parameters) (conditions : Entries Node) :
    Follows parameters conditions (Mirrors parameters conditions) where
  comparable pending :=
    have hb := (follows_backed parameters conditions).comparable pending
    { parameters := fun s t h => hb.parameters s t h.toBacked
      note := fun s t notice h =>
        { toBacked := hb.note s t notice h.toBacked
          messages := fun m =>
            (Warnings.mem_add _ _ _).trans ((or_congr_left (h.messages m)).trans
              (Warnings.mem_add _ _ _).symm)
          told := fun hd hy m hm => (Warnings.mem_add _ _ _).2 (.inl (h.told hd hy m hm)) } }
  backed h := h.toBacked
  remembered {pending s t s' f name value} h hd hrun := by
    obtain ⟨noted, hy, hnoted⟩ :=
      (ofName_determined ((determined f).2 {}) name).yields_of_run h.serves hrun
    refine ⟨(follows_backed parameters conditions).remembered h.toBacked hd hrun, fun m => ?_,
      h.told⟩
    -- Deciding the name again notes nothing new.
    rw [hnoted, h.messages, or_iff_left_of_imp (h.told hd hy m)]
  enter name h :=
    ⟨(follows_backed parameters conditions).enter name h.toBacked, h.messages, h.told⟩
  leave {pending s t s' t' f name value} h hrun h' := by
    refine ⟨(follows_backed parameters conditions).leave h.toBacked hrun h'.toBacked,
      h'.messages, fun {other value' fuel noted} hd hy m hm => ?_⟩
    by_cases heq : name = other
    · -- The name was just decided, and what it noted is there.
      subst heq
      obtain ⟨noted', hy', hnoted'⟩ :=
        (ofName_determined ((determined f).2 {}) name).yields_of_run h.serves hrun
      refine (h'.messages m).1 ((hnoted' m).2 (.inr ?_))
      rwa [← noted_unique hy hy']
    · rw [Session.leave, Bindings.get?_insert, if_neg heq] at hd
      exact h'.told hd hy m hm

theorem mirrors_start (parameters : Parameters) (conditions : Entries Node) :
    Mirrors parameters conditions [] (.start parameters conditions)
      (.start parameters conditions) :=
  ⟨⟨Session.serves_start parameters conditions, .start, rfl⟩, fun _ => .rfl, fun h => nomatch h⟩

end Scratch

open Scratch

/-- What is given and noted from scratch is what a new session answers and notes. -/
theorem Session.perform_of_yields {parameters : Parameters} {conditions : Entries Node}
    {query : Query} {fuel : Nat} {answer : Answer} {noted : Set String}
    (h : Yields parameters conditions (query.scratch fuel) answer noted) :
    ((start parameters conditions).perform query).1 = answer ∧
      ∀ m, m ∈ ((start parameters conditions).perform query).2.warnings.messages ↔ m ∈ noted := by
  obtain ⟨t, ht, -, hnoted⟩ := h _ (serves_start parameters conditions)
  obtain ⟨t', ht', hmirrors⟩ := query.simulated (follows_mirrors parameters conditions) fuel _ _ _ _
    (mirrors_start parameters conditions) ht
  obtain ⟨fuel', hrun⟩ := (start parameters conditions).perform_spec query
  rw [eq_of_simulates query.mono hrun ht']
  refine ⟨rfl, fun m => ?_⟩
  rw [← hmirrors.messages, hnoted]
  simp [start, Warnings.empty]

end SamTemplate
