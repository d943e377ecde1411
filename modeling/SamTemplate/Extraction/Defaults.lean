import SamTemplate.Bindings
import SamTemplate.Node

/-!
# Defaults

The values that settings have when a template does not give them, and those
that a template gives for all of its functions at once (`FunctionDefaults`).
-/

namespace SamTemplate

/-- The path of code and layers that give none. -/
def defaultCodeUri : String := "./"

/-- How tables are charged that do not say it. -/
def defaultBillingMode : String := "PROVISIONED"

/-- The settings that a function has unless it gives its own. -/
structure FunctionDefaults where
  /-- The language runtime. -/
  runtime : String := "python3.12"
  /-- The entry point. -/
  handler : String := "lambda_function.lambda_handler"
  /-- How many seconds it may run. -/
  timeout : Int64 := 30
  /-- How many mebibytes it may use. -/
  memorySize : Int64 := 128
  /-- The layers, as they are written. -/
  layers : Option (List Node) := none
  /-- The architectures it runs on. -/
  architectures : List String := []
  /-- What triggers an update of its runtime. -/
  updateRuntimeOn : Option String := none
  /-- Its environment variables. -/
  environment : Bindings String := .empty

/-- What triggers an update of the runtime by a block of settings, if it says so. -/
def updateTrigger? (settings : Node) : Option String :=
  ((settings.field? "UpdateRuntimeOn").map Node.text).filter fun text => text ≠ ""

/-- The variables of a mapping as texts; anything else has none. -/
def environmentVariables (node : Node) : Bindings String :=
  .ofList ((node.entries?.getD []).map fun (name, value) => (name, value.text))

namespace FunctionDefaults

/-- The defaults with the settings of a mapping on top. A number that cannot be
    read counts as zero here, and a text may be empty. -/
def ofSettings (settings : Entries Node) : FunctionDefaults :=
  let given := Node.given? settings
  let base : FunctionDefaults := {}
  { runtime := ((given "Runtime").map Node.text).getD base.runtime
    handler := ((given "Handler").map Node.text).getD base.handler
    timeout := ((given "Timeout").map fun node => node.int?.getD 0).getD base.timeout
    memorySize := ((given "MemorySize").map fun node => node.int?.getD 0).getD base.memorySize
    layers := (given "Layers").map Node.items
    architectures := ((given "Architectures").map Node.texts).getD []
    updateRuntimeOn := (given "RuntimeManagementConfig").bind updateTrigger?
    environment :=
      (((given "Environment").bind (·.field? "Variables")).map environmentVariables).getD .empty }

/-- The defaults with the settings that a template has for all functions. -/
def ofTemplate (root : Entries Node) : FunctionDefaults :=
  match ((root.get? "Globals").bind (·.field? "Function")).bind Node.entries? with
  | some settings => ofSettings settings
  | none => {}

end FunctionDefaults

end SamTemplate
