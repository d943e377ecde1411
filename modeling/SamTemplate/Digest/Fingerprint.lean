import SamTemplate.Digest.Blake3
import SamTemplate.Json.Printer
import SamTemplate.Output.Encoding

/-!
# Fingerprints

Digests of what a compilation gives. A function or the resources are identified
by the digest of their JSON text, and the whole result by the digest of those
digests, each ended by a zero byte. The notices of a compilation do not count.

The digest of a text is left open where fingerprints are put together, so that
what they identify can be said of any digest that tells texts apart.
-/

namespace SamTemplate

/-- The digest of a text. -/
def digestText (text : String) : String := "blake3:" ++ Blake3.hex text.toUTF8

/-- Texts put together, each ended by a zero byte. -/
def terminated (parts : List String) : String := String.join (parts.map fun part => part ++ "\x00")

/-- The digest of several texts together. -/
def digestParts (parts : List String) : String := digestText (terminated parts)

/-- The digests of a compilation. -/
structure Fingerprints where
  /-- The digest of functions and resources together. -/
  result : String
  /-- The digest of the resources. -/
  resources : String
  /-- The digests of the functions by logical id. -/
  functions : Bindings String
  deriving DecidableEq

/-- The fingerprint of a function, by a digest of texts. -/
def FunctionSpec.fingerprint (digest : String → String) (function : FunctionSpec) : String :=
  digest function.toJson.compact

/-- The fingerprint of resources, by a digest of texts. -/
def ResourceSpecs.fingerprint (digest : String → String) (specs : ResourceSpecs) : String :=
  digest specs.toJson.compact

/-- The fingerprints of a compilation, by a digest of texts. -/
def Compilation.fingerprintsBy (digest : String → String) (compilation : Compilation) :
    Fingerprints :=
  let functions := compilation.functions.map fun function =>
    (function.logicalId, function.fingerprint digest)
  let resources := compilation.resources.fingerprint digest
  { result := digest (terminated (functions.map (·.2) ++ [resources]))
    resources
    functions := .ofList functions }

/-- The fingerprints of a compilation. -/
def Compilation.fingerprints (compilation : Compilation) : Fingerprints :=
  compilation.fingerprintsBy digestText

end SamTemplate
