import SamTemplate.Resolution.Interpolation
import SamTemplate.Toml.Printer
import SamTemplate.Toml.Reader

/-!
# Projects

What a project says about its template in a configuration file: where it is, in
which format its output is printed, and the values of its parameters.
-/

namespace SamTemplate

/-- The formats in which output is printed. -/
inductive OutputFormat where
  /-- As YAML. -/
  | yaml
  /-- As JSON. -/
  | json
  deriving DecidableEq, Repr

/-- The format with a name. -/
def OutputFormat.ofName? : String → Option OutputFormat
  | "yaml" => some .yaml
  | "json" => some .json
  | _ => none

/-- What a project says. -/
structure Project where
  /-- Where the template is, as seen from the file that says it. -/
  template : Option String
  /-- The format of the output. -/
  format : Option OutputFormat
  /-- The values of the parameters. -/
  parameters : Parameters

namespace Project

/-- A project that says nothing. -/
def empty : Project := ⟨none, none, .empty⟩

/-- The key that marks a table with a moment in it. -/
def momentKey : String := "$__toml_private_datetime"

/-- The text that a value of a parameter stands for. A date or time comes as a table
    with a mark; inside another value it is written as it is. -/
def parameterText : Toml → String
  | .str text => text
  | .moment value => (Toml.table [(momentKey, .str value.text)]).text
  | value => value.text

/-- The name of a format: a text, or the only key of a table with nothing below it. -/
def formatName? : Toml → Option String
  | .str name => some name
  | .table [(name, .table [])] | .table [(name, .arr [])] => some name
  | _ => none

/-- Reads one entry of a configuration into a project. -/
def withEntry? (project : Project) : String × Toml → Option Project
  | ("template", .str path) => some { project with template := some path }
  | ("format", value) => do
    let format ← (formatName? value).bind OutputFormat.ofName?
    return { project with format := some format }
  | ("parameters", .table entries) =>
    let values := entries.map fun (name, value) => (name, parameterText value)
    some { project with parameters := .ofList values }
  | _ => none

/-- Reads a configuration. Anything in it that means nothing is an error. -/
def ofText? (text : String) : Option Project :=
  (Toml.parse? text).bind fun entries => entries.foldlM withEntry? empty

end Project

end SamTemplate
