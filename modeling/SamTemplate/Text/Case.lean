import SamTemplate.Text.CaseTable

/-!
# Letter case

The upper and lower case of a text, for the letters of all scripts. A letter
may map to several characters, and a capital sigma at the end of a word becomes
the final form: it is preceded by a letter and not followed by one, characters
that play no part in case passed over.
-/

namespace SamTemplate

/-- Where a code point goes by a list of runs. -/
def CaseRun.find? (runs : List CaseRun) (n : Nat) : Option Nat :=
  runs.findSome? fun run =>
    if run.first ≤ n ∧ n ≤ run.last ∧ (n - run.first) % run.step = 0 then
      some (run.target + (n - run.first))
    else none

/-- A character under a case mapping given by its tables beyond ASCII. -/
private def mapCase (ascii : Char → Char) (expansions : List (Nat × List Nat))
    (runs : List CaseRun) (c : Char) : List Char :=
  if c.toNat < 128 then [ascii c]
  else match expansions.lookup c.toNat with
    | some codes => codes.map Char.ofNat
    | none => match CaseRun.find? runs c.toNat with
      | some code => [Char.ofNat code]
      | none => [c]

/-- The lower case of a character. -/
def lowerChar : Char → List Char := mapCase Char.toLower lowerExpansions lowerRuns

/-- The upper case of a character. -/
def upperChar : Char → List Char := mapCase Char.toUpper upperExpansions upperRuns

/-- Whether the first character that plays a part in case is a letter. -/
def startsWithLetter (text : List Char) : Bool :=
  match text.dropWhile (inRanges caseIgnorableRanges) with
  | c :: _ => inRanges casedRanges c
  | [] => false

/-- The lower case of a text, given what stands before it, nearest first. -/
def lowerChars (before : List Char) : List Char → List Char
  | [] => []
  | c :: rest =>
    let lower :=
      if c = 'Σ' then
        if startsWithLetter before && !startsWithLetter rest then ['ς'] else ['σ']
      else lowerChar c
    lower ++ lowerChars (c :: before) rest

/-- The lower case of a text. -/
def lowerCase (text : String) : String := String.ofList (lowerChars [] text.toList)

/-- The upper case of a text. -/
def upperCase (text : String) : String := String.ofList (text.toList.flatMap upperChar)

/-- Equality of texts up to the case of ASCII letters. -/
def eqIgnoringAsciiCase (a b : String) : Bool :=
  a.toList.map Char.toLower = b.toList.map Char.toLower

end SamTemplate
