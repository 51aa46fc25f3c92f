import InfixCalc.Text.Ranges

/-!
# `InfixCalc.Text.Space`: white space and blank lines

Two classes of characters. `isSpace` is the Unicode property White_Space: such characters
carry no meaning inside an expression. `isBlank` adds the four information separators
U+001C to U+001F, which have no such property and yet leave a line blank: a line of blank
characters only is no input at all.
-/

set_option autoImplicit false

namespace InfixCalc.Text

/-- The code points with the property White_Space. -/
def spaceRanges : List (Nat × Nat) :=
  [(0x09, 0x0D), (0x20, 0x20), (0x85, 0x85), (0xA0, 0xA0), (0x1680, 0x1680),
    (0x2000, 0x200A), (0x2028, 0x2029), (0x202F, 0x202F), (0x205F, 0x205F), (0x3000, 0x3000)]

/-- The character has the property White_Space. -/
def isSpace (c : Char) : Bool :=
  inRanges spaceRanges c

/-- The information separators, from the file separator to the unit separator. -/
def separatorRanges : List (Nat × Nat) :=
  [(0x1C, 0x1F)]

/-- The character is white space or an information separator. -/
def isBlank (c : Char) : Bool :=
  inRanges (spaceRanges ++ separatorRanges) c

/-- The text holds blank characters only. -/
def allBlank (text : String) : Bool :=
  text.toList.all isBlank

/-- The characters without the spaces at either end. -/
def trim (chars : List Char) : List Char :=
  ((chars.dropWhile isSpace).reverse.dropWhile isSpace).reverse

/-- White space is blank. -/
theorem isBlank_of_isSpace {c : Char} (h : isSpace c = true) : isBlank c = true := by
  simp only [isSpace] at h
  simp [isBlank, inRanges_append, h]

end InfixCalc.Text
