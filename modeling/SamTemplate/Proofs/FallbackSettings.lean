import SamTemplate.Proofs.EffectiveSettings

/-!
# Where settings fall back to

A number or text of a function can be given by the function or for all functions, and there is
one that is documented for when it is not. One expects of the three the first that counts
(`firstOf`): a number that can be read, a text that is not empty. A setting of the function
that does not count is indeed passed over. But one for all functions that does not count hides
the documented one, and leaves a zero or an empty text (`Hides`).

* `fallsBack`: what comes of the three levels, for settings of any kind;
* `serverlessFunction_fallsBack`: the numbers and texts of every function that is shipped as
  an archive.
-/

namespace SamTemplate

open Node

/-- The text of a node, if it is not empty. -/
def Node.text? (node : Node) : Option String := (some node.text).filter fun text => text ≠ ""

section

variable {α : Type} (read : Node → Option α) (own shared : Option Node)

/-- Of a function's own setting, the one for all functions and the documented one, the first
    that counts. -/
def firstOf (documented : α) : α := ((own.bind read).or (shared.bind read)).getD documented

/-- The setting for all functions is given and hides the documented one, though neither it nor
    the function's own counts. -/
structure Hides : Prop where
  own : own.bind read = none
  shared : ∃ node, shared = some node ∧ read node = none

/-- A setting has the first value that counts, or a blank one where the documented value is
    hidden. -/
structure FallsBack (documented blank value : α) : Prop where
  first : ¬ Hides read own shared → value = firstOf read own shared documented
  hidden : Hides read own shared → value = blank ∧ firstOf read own shared documented = documented

end

/-- What comes of the three levels, if a setting for all functions is taken as it is. -/
theorem fallsBack {α : Type} (read : Node → Option α) (own shared : Option Node)
    (documented blank : α) :
    FallsBack read own shared documented blank
      ((own.bind read).getD ((shared.map fun node => (read node).getD blank).getD documented)) := by
  cases hown : own.bind read with
  | some value =>
    refine ⟨fun _ => ?_, fun h => nomatch hown.symm.trans h.own⟩
    rw [firstOf, hown]
    rfl
  | none =>
    -- All depends on whether there is a setting for all functions, and on whether it counts.
    cases shared with
    | none =>
      refine ⟨fun _ => ?_, fun h => ?_⟩
      · rw [firstOf, hown]
        rfl
      · obtain ⟨_, hnode, -⟩ := h.shared
        exact nomatch hnode
    | some node =>
      have hfirst : firstOf read own (some node) documented = (read node).getD documented := by
        rw [firstOf, hown]
        rfl
      rw [Option.map_some, Option.getD_none, Option.getD_some]
      cases hread : read node with
      | none =>
        have hhides : Hides read own (some node) := ⟨hown, node, rfl, hread⟩
        exact ⟨fun h => absurd hhides h, fun _ => ⟨rfl, by rw [hfirst, hread]; rfl⟩⟩
      | some value =>
        refine ⟨fun _ => by rw [hfirst, hread]; rfl, fun h => ?_⟩
        obtain ⟨_, hnode, hnone⟩ := h.shared
        obtain rfl := Option.some.inj hnode
        exact nomatch hread.symm.trans hnone

section

variable {globals properties : Entries Node} {layers : Bindings LayerSpec}

/-- A setting that is read as a number. -/
theorem fallsBack_number (globals properties : Entries Node) (key : String)
    (documented : Int64) :
    FallsBack int? (given? properties key) (given? globals key) documented 0
      (((properties.get? key).bind int?).getD (defaultNumber globals key documented)) := by
  rw [defaultNumber_eq, ← given?_bind_int?]
  exact fallsBack int? (given? properties key) (given? globals key) documented 0

/-- A setting that is read as a text. -/
theorem fallsBack_text (globals properties : Entries Node) (key documented : String) :
    FallsBack text? (given? properties key) (given? globals key) documented ""
      ((textOf? properties key).getD (defaultText globals key documented)) := by
  have hown : textOf? properties key = (given? properties key).bind text? := by
    rw [given?_bind properties key (rfl : text? .null = none), textOf?]
    cases properties.get? key <;> rfl
  have htext : Node.text = fun node => (text? node).getD "" := by
    funext node
    by_cases hempty : node.text = "" <;> simp [text?, Option.filter_some, hempty]
  rw [hown, defaultText, htext]
  exact fallsBack text? (given? properties key) (given? globals key) documented ""

/-- The numbers and texts of every function that is shipped as an archive. One that is not in
    image mode is. -/
theorem serverlessFunction_fallsBack (logicalId : String) (globals properties : Entries Node)
    (layers : Bindings LayerSpec) :
    (¬ FunctionKind.serverless.InImageMode properties → ∃ function code,
      serverlessFunction logicalId properties (.ofSettings globals) layers = .ok function ∧
        function.packaging = .zip code) ∧
    ∀ function code,
      serverlessFunction logicalId properties (.ofSettings globals) layers = .ok function →
      function.packaging = .zip code →
      FallsBack int? (given? properties "Timeout") (given? globals "Timeout") 30 0
          function.timeout ∧
        FallsBack int? (given? properties "MemorySize") (given? globals "MemorySize") 128 0
          function.memorySize ∧
        FallsBack text? (given? properties "Runtime") (given? globals "Runtime")
          "python3.12" "" code.runtime ∧
        FallsBack text? (given? properties "Handler") (given? globals "Handler")
          "lambda_function.lambda_handler" "" code.handler := by
  unfold serverlessFunction
  dsimp only
  split
  · rename_i hmode
    refine ⟨fun hnot => absurd hmode hnot, fun function code h hpackaging => ?_⟩
    obtain ⟨source, -, h⟩ := except_bind_eq_ok_iff.1 h
    obtain rfl := Except.ok.inj h
    exact nomatch hpackaging
  · refine ⟨fun _ => ⟨_, _, rfl, rfl⟩, fun function code h hpackaging => ?_⟩
    obtain rfl := Except.ok.inj h
    obtain rfl := Packaging.zip.inj hpackaging
    have hcode := codePackage_hasCode globals properties layers
    refine ⟨?_, ?_, ?_, ?_⟩
    · rw [functionSpec_timeout]
      exact fallsBack_number globals properties "Timeout" 30
    · rw [functionSpec_memorySize]
      exact fallsBack_number globals properties "MemorySize" 128
    · rw [hcode.runtime]
      exact fallsBack_text globals properties "Runtime" "python3.12"
    · rw [hcode.handler]
      exact fallsBack_text globals properties "Handler" "lambda_function.lambda_handler"

end

/-- Numbers and a text for all functions, of which the text does not count. -/
def sharedNumbers : Entries Node :=
  [("Timeout", .str "15"), ("MemorySize", .null), ("Runtime", .str "")]

/-- A number of one function that cannot be read. -/
def ownNumber : Entries Node := [("Timeout", .str "soon")]

/-- What cannot be read and what is `null` is passed over, but the empty text is not. -/
theorem serverlessFunction_fallsBack_shared :
    ∃ function code,
      serverlessFunction "F" ownNumber (.ofSettings sharedNumbers) .empty = .ok function ∧
        function.packaging = .zip code ∧ function.timeout = 15 ∧ function.memorySize = 128 ∧
        code.runtime = "" ∧ code.handler = "lambda_function.lambda_handler" := by
  obtain ⟨hzip, hall⟩ := serverlessFunction_fallsBack "F" sharedNumbers ownNumber .empty
  have hmode : ¬ FunctionKind.serverless.InImageMode ownNumber := by
    rintro (htype | huri)
    · exact absurd htype (by decide)
    · exact huri rfl
  obtain ⟨function, code, hfunction, hpackaging⟩ := hzip hmode
  obtain ⟨htimeout, hmemory, hruntime, hhandler⟩ := hall function code hfunction hpackaging
  refine ⟨function, code, hfunction, hpackaging, htimeout.first fun h => ?_,
    hmemory.first fun h => ?_, (hruntime.hidden ⟨rfl, _, rfl, rfl⟩).1,
    hhandler.first fun h => ?_⟩
  · obtain ⟨node, hnode, hread⟩ := h.shared
    cases hnode
    exact absurd hread (by decide)
  · obtain ⟨node, hnode, -⟩ := h.shared
    exact nomatch hnode
  · obtain ⟨node, hnode, -⟩ := h.shared
    exact nomatch hnode

/-- A template with a function and these settings for all functions. -/
def sharing (settings : Entries Node) : Entries Node :=
  [("Globals", .map [("Function", .map settings)]),
    ("Resources", .map [
      ("F", .map [
        ("Type", .str "AWS::Serverless::Function"),
        ("Properties", .map [("Handler", .str "h")])])])]

/-- A number for all functions that cannot be read is not as if it were absent. -/
theorem compileDocument_hidden :
    (compileDocument (sharing [("Timeout", .str "soon")]) .empty).map
        (fun compilation => compilation.functions.map (·.timeout)) = .ok [0] ∧
      (compileDocument (sharing []) .empty).map
        (fun compilation => compilation.functions.map (·.timeout)) = .ok [30] ∧
      firstOf int? none (some (.str "soon")) 30 = 30 :=
  ⟨by decide +kernel, by decide +kernel, by decide⟩

end SamTemplate
