import SamTemplate.Compile

/-!
# What collecting tells

Output is collected while notices are made, and no step of it looks at the notices
so far. So a computation that collects gives the same value and adds the same
messages whatever was noted before (`Collecting.Tells`), and what it gives and adds
can be put together from its steps.

* `collectBacking_tells`, `extract_tells`: the steps for tables and buckets, and the
  extraction from those of its parts.
-/

namespace SamTemplate

namespace Warnings

/-- Records messages one after the other. -/
def addAll (warnings : Warnings) (messages : List String) : Warnings := messages.foldl add warnings

/-- Messages are recorded in their order, wherever a list of them is cut. -/
theorem addAll_append (warnings : Warnings) (messages messages' : List String) :
    warnings.addAll (messages ++ messages') = (warnings.addAll messages).addAll messages' :=
  List.foldl_append

/-- A message is recorded afterwards if it was before, or is one of those that are added. -/
theorem mem_addAll (warnings : Warnings) (messages : List String) (message : String) :
    message ∈ (warnings.addAll messages).messages
      ↔ message ∈ warnings.messages ∨ message ∈ messages := by
  induction messages generalizing warnings with
  | nil => simp [addAll]
  | cons first rest ih =>
    change message ∈ ((warnings.add first).addAll rest).messages ↔ _
    rw [ih, mem_add, List.mem_cons, or_assoc]

end Warnings

namespace Collecting

variable {α β ε : Type} {told told' : List String}

/-- A computation gives a value and adds these messages, whatever was noted before. -/
def Tells (x : Collecting α) (a : α) (told : List String) : Prop :=
  ∀ warnings, x.run warnings = (a, warnings.addAll told)

theorem Tells.pure (a : α) : Tells (pure a) a [] := fun _ => rfl

theorem Tells.note (notice : Notice) : Tells (note notice) () [notice.message] := fun _ => rfl

/-- What the first part tells comes before what the rest tells. -/
theorem Tells.bind {x : Collecting α} {f : α → Collecting β} {a : α} {b : β} (hx : Tells x a told)
    (hf : Tells (f a) b told') : Tells (x >>= f) b (told ++ told') := by
  intro warnings
  rw [StateT.run_bind, hx warnings, Warnings.addAll_append]
  exact hf _

/-! ### Computations that may fail -/

theorem Tells.ok (a : α) : Tells (Pure.pure a : ExceptT ε Collecting α).run (.ok a) [] := .pure _

/-- A step that cannot fail tells the same where others can. -/
theorem Tells.lift {x : Collecting α} {a : α} (hx : Tells x a told) :
    Tells (ExceptT.lift x : ExceptT ε Collecting α).run (.ok a) told := by
  intro warnings
  -- To lift a computation is to mark what it gives as given.
  change (Except.ok <$> x).run warnings = _
  rw [StateT.run_map, hx warnings]
  rfl

/-- A value or an error that is there already tells nothing. -/
theorem Tells.ofExcept (x : Except ε α) (f : α → β) :
    Tells (do return f (← x) : ExceptT ε Collecting β).run (x.map f) [] := by
  cases x <;> exact fun _ => rfl

/-- Where the first part does not fail, the second one follows. -/
theorem Tells.andThen {x : ExceptT ε Collecting α} {f : α → ExceptT ε Collecting β} {a : α}
    {b : Except ε β} (hx : Tells x.run (.ok a) told) (hf : Tells (f a).run b told') :
    Tells (x >>= f).run b (told ++ told') :=
  Tells.bind (f := ExceptT.bindCont f) hx hf

/-- Where the first part fails, nothing else is told. -/
theorem Tells.fail {x : ExceptT ε Collecting α} {e : ε} (hx : Tells x.run (.error e) told)
    (f : α → ExceptT ε Collecting β) : Tells (x >>= f).run (.error e) told := by
  have hb := Tells.bind (f := ExceptT.bindCont f) hx (Tells.pure (Except.error e))
  rwa [List.append_nil] at hb

end Collecting

open Collecting

/-! ### Tables and buckets -/

/-- A property tells at most that it could not be read. -/
theorem readProperty_tells {α : Type} (read : Reader α) (owner logicalId : String)
    (properties : Entries Node) (key : String) :
    ∃ value told, Tells (readProperty read owner logicalId properties key) value told := by
  unfold readProperty
  split
  · exact ⟨_, _, .pure _⟩
  · split
    · exact ⟨_, _, .pure _⟩
    · exact ⟨_, _, (Tells.note _).bind (.pure _)⟩

/-- A table tells of its four properties, one after another. -/
theorem tableSpec_tells (logicalId : String) (properties : Entries Node) :
    ∃ table told, Tells (tableSpec logicalId properties) table told := by
  have h := fun {α} (read : Reader α) =>
    readProperty_tells read "DynamoDB table" logicalId properties
  obtain ⟨_, _, h₁⟩ := h (.list KeyElement.read) "KeySchema"
  obtain ⟨_, _, h₂⟩ := h (.list AttributeDefinition.read) "AttributeDefinitions"
  obtain ⟨_, _, h₃⟩ := h (.list SecondaryIndex.read) "GlobalSecondaryIndexes"
  obtain ⟨_, _, h₄⟩ := h Throughput.read "ProvisionedThroughput"
  exact ⟨_, _, h₁.bind (h₂.bind (h₃.bind (h₄.bind (.pure _))))⟩

theorem bucketSpec_tells (logicalId : String) (properties : Entries Node) :
    ∃ bucket told, Tells (bucketSpec logicalId properties) bucket told := by
  obtain ⟨_, _, h⟩ := readProperty_tells Lifecycle.read "S3 bucket" logicalId properties
    "LifecycleConfiguration"
  exact ⟨_, _, h.bind (.pure _)⟩

/-- Tables and buckets tell of themselves in turn, and other resources of nothing. -/
theorem collectBackingFrom_tells (resources : List (String × Node)) :
    ∃ specs told, Tells (collectBackingFrom resources) specs told := by
  induction resources with
  | nil => exact ⟨_, _, .pure _⟩
  | cons pair rest ih =>
    obtain ⟨logicalId, resource⟩ := pair
    obtain ⟨_, _, hrest⟩ := ih
    unfold collectBackingFrom
    split
    · obtain ⟨_, _, h⟩ := tableSpec_tells logicalId ((properties? resource).getD [])
      exact ⟨_, _, h.bind (hrest.bind (.pure _))⟩
    · obtain ⟨_, _, h⟩ := bucketSpec_tells logicalId ((properties? resource).getD [])
      exact ⟨_, _, h.bind (hrest.bind (.pure _))⟩
    · exact ⟨_, _, hrest⟩

theorem collectBacking_tells (resources : Entries Node) :
    ∃ specs told, Tells (collectBacking resources) specs told :=
  collectBackingFrom_tells resources.inKeyOrder

/-! ### The extraction -/

/-- The extraction puts together what its steps collect, or fails if collecting the
    functions does. -/
theorem extract_tells_of {root resources : Entries Node} {specs : ResourceSpecs}
    {functions : Except ImageError (List FunctionSpec)} {told told' : List String}
    (hs : Tells (collectBacking resources) specs told')
    (h : Tells (collectFunctions resources (.ofTemplate root) (collectLayers resources)).run
      functions told) :
    Tells (extract root resources).run
      (functions.map fun functions => ⟨FunctionSpec.inNameOrder functions,
        { specs with layers := (collectLayers resources).values }, []⟩)
      (told' ++ told) := by
  refine hs.lift.andThen ?_
  cases functions with
  -- The tables and buckets are lost with the functions, but not what they told.
  | error e => exact h.fail _
  | ok functions =>
    rw [← List.append_nil told]
    exact h.andThen (.ok _)

/-- The extraction fails if collecting the functions does, and else gives them in the
    order of their names. -/
theorem extract_tells {root resources : Entries Node}
    {functions : Except ImageError (List FunctionSpec)} {told : List String}
    (h : Tells (collectFunctions resources (.ofTemplate root) (collectLayers resources)).run
      functions told) :
    ∃ specs told', Tells (extract root resources).run
      (functions.map fun functions => ⟨FunctionSpec.inNameOrder functions, specs, []⟩)
      (told' ++ told) := by
  obtain ⟨specs, told', hs⟩ := collectBacking_tells resources
  exact ⟨_, told', extract_tells_of hs h⟩

/-! ### Compiling documents -/

/-- A template after everything in it that can be resolved is, and the session in which
    it was. -/
def resolveDocument (document : Entries Node) (overrides : Parameters) : Node × Session :=
  let parameters := (declaredParameters document).insertAll overrides.entries
  let conditions := ((document.get? "Conditions").bind Node.entries?).getD []
  (Session.start parameters conditions).resolve (.map document)

section

variable {document root resources : Entries Node} {overrides : Parameters}

/-- A template that is resolved to anything but a mapping cannot be compiled. -/
theorem compileDocument_of_notMapping (h : (resolveDocument document overrides).1.entries? = none) :
    compileDocument document overrides = .error .unexpectedRoot := by
  unfold resolveDocument at h
  unfold compileDocument
  dsimp only at h ⊢
  rw [h]

/-- A template without resources is compiled to nothing but the notices of resolving it. -/
theorem compileDocument_of_noResources
    (h : (resolveDocument document overrides).1.entries? = some root)
    (hr : (root.get? "Resources").bind Node.entries? = none) :
    compileDocument document overrides = .ok
      { Compilation.empty with
        warnings := (resolveDocument document overrides).2.warnings.messages } := by
  unfold resolveDocument at h ⊢
  unfold compileDocument
  dsimp only at h ⊢
  rw [h]
  dsimp only
  rw [hr]

/-- What compiling gives, from what the extraction gives and tells. -/
theorem compileDocument_of_resources
    (h : (resolveDocument document overrides).1.entries? = some root)
    (hr : (root.get? "Resources").bind Node.entries? = some resources)
    {outcome : Except ImageError Compilation} {told : List String}
    (hx : Tells (extract root resources).run outcome told) :
    compileDocument document overrides = (outcome.map fun compilation =>
      { compilation with
        warnings := ((resolveDocument document overrides).2.warnings.addAll told).messages
      }).mapError .image := by
  unfold resolveDocument at h ⊢
  unfold compileDocument
  dsimp only at h ⊢
  -- Only the outcome of resolving matters, and its session for the notices in it.
  generalize (Session.start _ _).resolve (.map document) = resolution at h ⊢
  rw [h]
  dsimp only
  rw [hr]
  dsimp only
  rw [show (extract root resources).run resolution.2.warnings = _ from hx resolution.2.warnings]
  cases outcome <;> rfl

end

end SamTemplate
