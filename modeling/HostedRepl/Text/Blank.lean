/-
Blank characters: the `White_Space` property of Unicode.

* `blankRanges`, `isBlank`: the property as ranges of code points, and its test.
* `isBlankText`: a text with no visible character, the empty text included.
-/

namespace HostedRepl.Text

/-- The code points with the `White_Space` property, as closed ranges in ascending order. -/
def blankRanges : List (Nat × Nat) :=
  [(9, 13), (32, 32), (133, 133), (160, 160), (5760, 5760), (8192, 8202), (8232, 8233),
    (8239, 8239), (8287, 8287), (12288, 12288)]

/-- A character is blank when one of the ranges holds its code point. -/
def isBlank (c : Char) : Bool :=
  blankRanges.any fun r => r.1 ≤ c.toNat && c.toNat ≤ r.2

/-- A text is blank when all its characters are. -/
def isBlankText (s : String) : Bool := s.toList.all isBlank

end HostedRepl.Text
