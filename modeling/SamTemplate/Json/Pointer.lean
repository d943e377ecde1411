import SamTemplate.Json.Basic
import SamTemplate.Number.Literal
import SamTemplate.Text.Pieces

/-!
# JSON pointers

A path into a JSON value: a slash before each step, which is the name of a
member or the index of an element. In a name, `~1` stands for a slash and `~0`
for a tilde.
-/

namespace SamTemplate

namespace Json

/-- The name that a step of a pointer spells. -/
def stepName : List Char → List Char
  | '~' :: '1' :: rest => '/' :: stepName rest
  | '~' :: '0' :: rest => '~' :: stepName rest
  | c :: rest => c :: stepName rest
  | [] => []

/-- The index that a step of a pointer spells: no sign, no leading zero. -/
def stepIndex? (step : List Char) : Option Nat :=
  if step.length ≠ 1 ∧ step.head? = some '0' then none else unsigned? 10 step

/-- What a value holds at a path. -/
def descend? : List String → Json → Option Json
  | [], value => some value
  | step :: steps, .obj members =>
    (Entries.get? (String.ofList (stepName step.toList)) members).bind (descend? steps)
  | step :: steps, .arr elements =>
    (stepIndex? (stepName step.toList)).bind fun index =>
      elements[index]?.bind (descend? steps)
  | _, _ => none

/-- What a value holds at a pointer. -/
def at? (pointer : String) (value : Json) : Option Json :=
  match pieces "/" pointer with
  | "" :: steps => descend? steps value
  | _ => none

end Json

end SamTemplate
