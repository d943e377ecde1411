import SamTemplate.Yaml.Spot

/-!
# Gaps inside scalars

A scalar that is written over several lines is folded: a single line end between
two words counts as a blank, and of several ones all but the first are kept. The
blanks around line ends do not count.
-/

namespace SamTemplate

namespace Yaml

/-- The line ends among the characters of a gap. -/
def gapBreaks (gap : List Char) : List Char := gap.filter isBreak

/-- What a gap between two words of a scalar stands for. -/
def foldGap (gap : List Char) : List Char :=
  match gapBreaks gap with
  | [] => gap
  | ['\n'] => [' ']
  | '\n' :: more => more
  | breaks => breaks

end Yaml

end SamTemplate
