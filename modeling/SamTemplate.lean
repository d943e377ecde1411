import SamTemplate.Bindings
import SamTemplate.CommandLine.Command
import SamTemplate.CommandLine.Run
import SamTemplate.Compile
import SamTemplate.Digest.Blake3
import SamTemplate.Digest.Fingerprint
import SamTemplate.Document
import SamTemplate.Entries
import SamTemplate.Extraction.Defaults
import SamTemplate.Extraction.Functions
import SamTemplate.Extraction.Resources
import SamTemplate.Json.Basic
import SamTemplate.Json.Parser
import SamTemplate.Json.Pointer
import SamTemplate.Json.Printer
import SamTemplate.Main
import SamTemplate.Node
import SamTemplate.Notice
import SamTemplate.Number.Binary64
import SamTemplate.Number.Layout
import SamTemplate.Number.Literal
import SamTemplate.Number.Shortest
import SamTemplate.Output.Basic
import SamTemplate.Output.Decoding
import SamTemplate.Output.Encoding
import SamTemplate.Output.Record
import SamTemplate.Output.Schemas
import SamTemplate.Path
import SamTemplate.Project
import SamTemplate.Proofs.Agreement
import SamTemplate.Proofs.AttributeForms
import SamTemplate.Proofs.BlankTexts
import SamTemplate.Proofs.Bookkeeping
import SamTemplate.Proofs.ByteOrder
import SamTemplate.Proofs.Collected
import SamTemplate.Proofs.Collecting
import SamTemplate.Proofs.CompiledFunctions
import SamTemplate.Proofs.Compositional
import SamTemplate.Proofs.ContainerTexts
import SamTemplate.Proofs.Cycles
import SamTemplate.Proofs.DepthLimits
import SamTemplate.Proofs.DocumentOrder
import SamTemplate.Proofs.EffectiveSettings
import SamTemplate.Proofs.EmittedFunctions
import SamTemplate.Proofs.ExtractionAlike
import SamTemplate.Proofs.ExtractionOrder
import SamTemplate.Proofs.FallbackSettings
import SamTemplate.Proofs.FingerprintIdentity
import SamTemplate.Proofs.FunctionResources
import SamTemplate.Proofs.Growth
import SamTemplate.Proofs.History
import SamTemplate.Proofs.Idempotence
import SamTemplate.Proofs.ImageDetection
import SamTemplate.Proofs.ImageSources
import SamTemplate.Proofs.IntegerSettings
import SamTemplate.Proofs.IntegerSpellings
import SamTemplate.Proofs.Isolation
import SamTemplate.Proofs.JsonParsing
import SamTemplate.Proofs.JsonText
import SamTemplate.Proofs.Keys
import SamTemplate.Proofs.LenientReadings
import SamTemplate.Proofs.MalformedCalls
import SamTemplate.Proofs.MalformedProperties
import SamTemplate.Proofs.MaskedDefaults
import SamTemplate.Proofs.Meaning
import SamTemplate.Proofs.MemberOrder
import SamTemplate.Proofs.Memory
import SamTemplate.Proofs.Nesting
import SamTemplate.Proofs.Normal
import SamTemplate.Proofs.Noted
import SamTemplate.Proofs.NumberText
import SamTemplate.Proofs.OutputReadBack
import SamTemplate.Proofs.OutputRoundTrip
import SamTemplate.Proofs.OutputSchema
import SamTemplate.Proofs.ParameterPrecedence
import SamTemplate.Proofs.Places
import SamTemplate.Proofs.PublishedSchema
import SamTemplate.Proofs.Quiet
import SamTemplate.Proofs.QuotedText
import SamTemplate.Proofs.RecordReadings
import SamTemplate.Proofs.ReferenceChains
import SamTemplate.Proofs.Refinement
import SamTemplate.Proofs.RelatedRuns
import SamTemplate.Proofs.Reordering
import SamTemplate.Proofs.RepeatedInterpolation
import SamTemplate.Proofs.ResolutionOrder
import SamTemplate.Proofs.SchemaValidation
import SamTemplate.Proofs.Scratch
import SamTemplate.Proofs.Settling
import SamTemplate.Proofs.Shadowing
import SamTemplate.Proofs.ShortCalls
import SamTemplate.Proofs.Simulation
import SamTemplate.Proofs.Spellings
import SamTemplate.Proofs.SplitAndJoin
import SamTemplate.Proofs.TextShapes
import SamTemplate.Proofs.Tokens
import SamTemplate.Proofs.WalkVisits
import SamTemplate.Proofs.WellFormedOutput
import SamTemplate.Proofs.WordLevels
import SamTemplate.Resolution.Basic
import SamTemplate.Resolution.Budget
import SamTemplate.Resolution.Condition
import SamTemplate.Resolution.Interpolation
import SamTemplate.Resolution.Intrinsic
import SamTemplate.Resolution.Session
import SamTemplate.Resolution.Walk
import SamTemplate.Resolution.Words
import SamTemplate.Schema
import SamTemplate.Text.Blank
import SamTemplate.Text.Case
import SamTemplate.Text.CaseTable
import SamTemplate.Text.Pieces
import SamTemplate.Text.Printable
import SamTemplate.Text.Quoted
import SamTemplate.Text.Ranges
import SamTemplate.Toml.Basic
import SamTemplate.Toml.Moment
import SamTemplate.Toml.Number
import SamTemplate.Toml.Printer
import SamTemplate.Toml.Reader
import SamTemplate.Toml.Table
import SamTemplate.Toml.Text
import SamTemplate.Yaml.Plain
import SamTemplate.Yaml.Reader
import SamTemplate.Yaml.Scalar.Block
import SamTemplate.Yaml.Scalar.Gap
import SamTemplate.Yaml.Scalar.Plain
import SamTemplate.Yaml.Scalar.Quoted
import SamTemplate.Yaml.Scalar.Style
import SamTemplate.Yaml.Spot
import SamTemplate.Yaml.Tag
import SamTemplate.Yaml.Token
import SamTemplate.Yaml.Token.Lexer
import SamTemplate.Yaml.Tree
import SamTemplate.Yaml.Value
import SamTemplate.Yaml.Writer
