import LlvmProvision.Text.Ranges

/-!
# White space

The characters that separate words and lines, in every script.  Characters without width,
such as the zero width space, are not among them.
-/
namespace LlvmProvision.Text

/-- The spaces, the tabulators and the line and paragraph ends. -/
def blankRanges : Ranges :=
  [(0x9, 0xd), (0x20, 0x20), (0x85, 0x85), (0xa0, 0xa0), (0x1680, 0x1680), (0x2000, 0x200a),
   (0x2028, 0x2029), (0x202f, 0x202f), (0x205f, 0x205f), (0x3000, 0x3000)]

/-- A character of white space. -/
def isBlank (c : Char) : Bool := blankRanges.holds c

/-- A text without the white space at its end. -/
def trimEnd (text : List Char) : List Char := (text.reverse.dropWhile isBlank).reverse

end LlvmProvision.Text
