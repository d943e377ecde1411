import SamTemplate.CommandLine.Command
import SamTemplate.Compile
import SamTemplate.Digest.Fingerprint
import SamTemplate.Json.Printer
import SamTemplate.Output.Schemas
import SamTemplate.Path
import SamTemplate.Yaml.Writer

/-!
# Running commands

What a command does with the files it finds. The configuration is read first, then
the parameters given as arguments, and the template last, so that nothing wrong
with the former costs a look at the latter. Whatever is given as an argument goes
before the configuration, and that before the template.

How files are looked up is left open, so that a command can be run on any files.
-/

namespace SamTemplate

/-- What is found under a path. -/
inductive FileState where
  /-- Nothing. -/
  | absent
  /-- Something that cannot be read as text. -/
  | unreadable
  /-- A text. -/
  | text (content : String)

/-- Why a command fails. -/
inductive CommandError where
  /-- A file cannot be read. -/
  | unreadable (path : String)
  /-- A configuration has something in it that means nothing. -/
  | invalidConfig (path : String)
  /-- An argument for a parameter gives no name or no value. -/
  | invalidParameter (argument : String)
  /-- A template cannot be compiled. -/
  | compile (path : String) (error : CompileError)
  deriving DecidableEq

/-- What an error says. -/
def CommandError.message : CommandError → String
  | .unreadable path => "cannot read " ++ path
  | .invalidConfig path => "invalid " ++ path
  | .invalidParameter argument =>
    "invalid --param " ++ quoted argument ++ ": expected KEY=VALUE"
  | .compile path error => path ++ ": " ++ error.message

/-- What a command prints. -/
structure Report where
  /-- The output. -/
  output : String
  /-- The notices about the template. -/
  warnings : List String

namespace CommandLine

/-- Where the configuration is unless it is said. -/
def defaultConfig : String := "samc.toml"

/-- Where the template is unless it is said. -/
def defaultTemplate : String := "template.yaml"

variable {m : Type → Type} [Monad m]

/-- The project of a configuration file, if there is one. Its template is seen from
    the directory that the file is in. -/
def loadProject (look : String → m FileState) (path : String) :
    ExceptT CommandError m Project := do
  match ← look path with
  | .absent => return .empty
  | .unreadable => throw (.unreadable path)
  | .text content =>
    match Project.ofText? content with
    | none => throw (.invalidConfig path)
    | some project =>
      return { project with template := project.template.map (Path.join (Path.parent path)) }

/-- The name and value that an argument gives to a parameter: what is before the
    first equals sign, without the blanks around it, and what is after it. -/
def parameter? (argument : String) : Option (String × String) :=
  let (name, rest) := argument.toList.span (· ≠ '=')
  let name := trimChars name
  match rest with
  | _ :: value => if name.isEmpty then none else some (String.ofList name, String.ofList value)
  | [] => none

/-- Adds the parameters that arguments give. -/
def addParameters (parameters : Parameters) : List String → Except CommandError Parameters
  | [] => .ok parameters
  | argument :: rest =>
    match parameter? argument with
    | some (name, value) => addParameters (parameters.insert name value) rest
    | none => .error (.invalidParameter argument)

/-- All that a compilation needs. -/
structure Job where
  /-- Where the template is. -/
  template : String
  /-- The values of parameters. -/
  parameters : Parameters
  /-- The format of the output. -/
  format : OutputFormat

/-- The job that arguments and the configuration describe. -/
def prepare (look : String → m FileState) (inputs : Inputs) (format : Option OutputFormat) :
    ExceptT CommandError m Job := do
  let project ← loadProject look (inputs.config.getD defaultConfig)
  let template := (inputs.file.or project.template).getD defaultTemplate
  let parameters ← (addParameters project.parameters inputs.parameters : Except _ _)
  return ⟨template, parameters, (format.or project.format).getD .yaml⟩

/-- The text of a template and the output of compiling it. -/
def compileFile (look : String → m FileState) (job : Job) :
    ExceptT CommandError m (String × Compilation) := do
  match ← look job.template with
  | .text content =>
    match compile content job.parameters with
    | .ok compilation => return (content, compilation)
    | .error error => throw (.compile job.template error)
  | _ => throw (.unreadable job.template)

/-- The output of a compilation in a format. -/
def render (format : OutputFormat) (compilation : Compilation) : String :=
  match format with
  | .json => compilation.toJson.pretty
  | .yaml => Yaml.document compilation.toJson

/-- The fingerprints of a template and of the output of compiling it, one a line. -/
def fingerprintReport (template : String) (compilation : Compilation) : String :=
  let prints := compilation.fingerprints
  let functions := prints.functions.entries.map fun (logicalId, digest) =>
    "function   " ++ digest ++ "  " ++ logicalId ++ "\n"
  "template   " ++ digestText template ++ "\n"
    ++ "result     " ++ prints.result ++ "\n"
    ++ "resources  " ++ prints.resources ++ "\n"
    ++ String.join functions

/-- Runs a command. -/
def run (look : String → m FileState) : Command → ExceptT CommandError m Report
  | .compile inputs format => do
    let job ← prepare look inputs format
    let (_, compilation) ← compileFile look job
    return ⟨trimEnd (render job.format compilation) ++ "\n", compilation.warnings⟩
  | .fingerprint inputs => do
    let job ← prepare look inputs none
    let (content, compilation) ← compileFile look job
    return ⟨fingerprintReport content compilation, compilation.warnings⟩
  | .schema => return ⟨Compilation.schema.toJson.pretty ++ "\n", []⟩

end CommandLine

end SamTemplate
