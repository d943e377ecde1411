import SamTemplate.Project

/-!
# Commands

The commands of the program and how they are spelled by arguments. An option has
its value in the same argument, after its letter or an equals sign, or in the next
one; only parameters may be given more than once.
-/

namespace SamTemplate

/-- What a template is compiled from. -/
structure Inputs where
  /-- Where the template is. -/
  file : Option String
  /-- The values of parameters, as `KEY=VALUE`, in order. -/
  parameters : List String
  /-- Where the configuration of the project is. -/
  config : Option String

/-- A command. -/
inductive Command where
  /-- Print the output of a compilation. -/
  | compile (inputs : Inputs) (format : Option OutputFormat)
  /-- Print the fingerprints of a compilation. -/
  | fingerprint (inputs : Inputs)
  /-- Print the schema of the output. -/
  | schema

namespace Command

/-- What an option is about. -/
inductive Flag where
  /-- The template. -/
  | file
  /-- A parameter. -/
  | parameter
  /-- The configuration. -/
  | config
  /-- The format. -/
  | format
  deriving DecidableEq, Repr

/-- The option with a long name. -/
def Flag.ofName? : String → Option Flag
  | "file" => some .file
  | "param" => some .parameter
  | "config" => some .config
  | "format" => some .format
  | _ => none

/-- The option with a letter. -/
def Flag.ofLetter? : Char → Option Flag
  | 'f' => some .file
  | 'p' => some .parameter
  | _ => none

/-- The value that follows a letter in the same argument. -/
def attachedValue? : List Char → Option String
  | [] => none
  | '=' :: value => some (String.ofList value)
  | value => some (String.ofList value)

/-- The option that an argument spells, with its value if that is in the same
    argument. -/
def option? (argument : String) : Option (Flag × Option String) :=
  match argument.toList with
  | '-' :: '-' :: text =>
    let (name, rest) := text.span (· ≠ '=')
    (Flag.ofName? (String.ofList name)).map fun flag =>
      (flag, if rest.isEmpty then none else some (String.ofList rest.tail))
  | '-' :: letter :: rest => (Flag.ofLetter? letter).map fun flag => (flag, attachedValue? rest)
  | _ => none

/-- Whether an argument can be the value of the option before it. -/
def isValue (argument : String) : Bool := argument = "-" || !argument.startsWith "-"

/-- The options of a command. -/
structure Options where
  /-- What the template is compiled from. -/
  inputs : Inputs
  /-- The format of the output. -/
  format : Option OutputFormat

/-- No options. -/
def Options.empty : Options := ⟨⟨none, [], none⟩, none⟩

/-- A path that is given for the first time. -/
def firstPath? (before : Option String) (path : String) : Option String :=
  if before.isNone && path ≠ "" then some path else none

/-- Adds an option. Only some commands have a format. -/
def Options.add? (options : Options) (formatted : Bool) (flag : Flag) (value : String) :
    Option Options :=
  match flag with
  | .file => do
    let path ← firstPath? options.inputs.file value
    return { options with inputs := { options.inputs with file := some path } }
  | .config => do
    let path ← firstPath? options.inputs.config value
    return { options with inputs := { options.inputs with config := some path } }
  | .parameter =>
    let parameters := options.inputs.parameters ++ [value]
    some { options with inputs := { options.inputs with parameters } }
  | .format =>
    if formatted && options.format.isNone then
      (OutputFormat.ofName? value).map fun format => { options with format := some format }
    else none

/-- Adds the options that arguments spell. Two hyphens alone end them. -/
def options? (formatted : Bool) (options : Options) : List String → Option Options
  | [] => some options
  | argument :: rest =>
    if argument = "--" then if rest.isEmpty then some options else none
    else
      match option? argument with
      | none => none
      | some (flag, some value) =>
        (options.add? formatted flag value).bind (options? formatted · rest)
      | some (flag, none) =>
        match rest with
        | value :: rest =>
          if isValue value then
            (options.add? formatted flag value).bind (options? formatted · rest)
          else none
        | [] => none

/-- The command that arguments spell. -/
def ofArguments? : List String → Option Command
  | "compile" :: rest =>
    (options? true .empty rest).map fun options => .compile options.inputs options.format
  | "fingerprint" :: rest =>
    (options? false .empty rest).map fun options => .fingerprint options.inputs
  | ["schema"] | ["schema", "--"] => some .schema
  | _ => none

end Command

end SamTemplate
