import SamTemplate.Document
import SamTemplate.Extraction.Functions
import SamTemplate.Resolution.Basic

/-!
# Compiling templates

From the text of a template to the functions in it and what they stand on: the
text is read, everything in it that can be resolved is, and the output is
extracted from the resolved tree. Nothing but an unreadable document or a
function without a usable image is an error; all else makes a notice.
-/

namespace SamTemplate

/-- Why a template cannot be compiled. -/
inductive CompileError where
  /-- It cannot be read. -/
  | document (error : DocumentError)
  /-- It is resolved to something that is not a mapping. -/
  | unexpectedRoot
  /-- A function has no usable image. -/
  | image (error : ImageError)
  deriving DecidableEq

/-- What an error says. -/
def CompileError.message : CompileError → String
  | .document error => error.message
  | .unexpectedRoot => "unexpected template root after resolution"
  | .image error => error.message

/-- The values that a template declares for its parameters, as texts. -/
def declaredParameters (document : Entries Node) : Parameters :=
  let declared := ((document.get? "Parameters").bind Node.entries?).getD []
  .ofList (declared.filterMap fun (name, declaration) =>
    (declaration.field? "Default").map fun value => (name, value.text))

/-- Functions in the order of their names, those of one name in the order of their
    logical ids. -/
def FunctionSpec.inNameOrder (functions : List FunctionSpec) : List FunctionSpec :=
  functions.mergeSort fun a b =>
    decide (a.name < b.name ∨ (a.name = b.name ∧ a.logicalId ≤ b.logicalId))

/-- Extracts the output from the entries of a resolved template with resources. -/
def extract (root resources : Entries Node) : ExceptT ImageError Collecting Compilation := do
  let layers := collectLayers resources
  let specs ← collectBacking resources
  let functions ← collectFunctions resources (.ofTemplate root) layers
  return ⟨FunctionSpec.inNameOrder functions, { specs with layers := layers.values }, []⟩

/-- Compiles the entries of a template; `overrides` go before the values that the
    template declares for its parameters. -/
def compileDocument (document : Entries Node) (overrides : Parameters) :
    Except CompileError Compilation :=
  let parameters := (declaredParameters document).insertAll overrides.entries
  let conditions := ((document.get? "Conditions").bind Node.entries?).getD []
  let (resolved, session) := (Session.start parameters conditions).resolve (.map document)
  match resolved.entries? with
  | none => .error .unexpectedRoot
  | some root =>
    match (root.get? "Resources").bind Node.entries? with
    | none => .ok { Compilation.empty with warnings := session.warnings.messages }
    | some resources =>
      match (extract root resources).run session.warnings with
      | (.ok compilation, warnings) => .ok { compilation with warnings := warnings.messages }
      | (.error error, _) => .error (.image error)

/-- Compiles the text of a template. -/
def compile (text : String) (overrides : Parameters) : Except CompileError Compilation :=
  match readDocument text with
  | .error error => .error (.document error)
  | .ok document => compileDocument document overrides

end SamTemplate
