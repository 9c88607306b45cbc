import DeviceScript.Text.Ranges

/-!
# Blank characters

A blank separates words. Besides the space and the line controls of ASCII, the information
separators and the spaces of other scripts are blanks.
-/

namespace DeviceScript.Text

def blankRanges : Ranges := #[
  (0x9, 0xD), (0x1C, 0x20), (0x85, 0x85), (0xA0, 0xA0), (0x1680, 0x1680), (0x2000, 0x200A),
  (0x2028, 0x2029), (0x202F, 0x202F), (0x205F, 0x205F), (0x3000, 0x3000)]

def isBlank (c : Char) : Bool := blankRanges.contains c

def trimmed (chars : List Char) : List Char :=
  ((chars.dropWhile isBlank).reverse.dropWhile isBlank).reverse

end DeviceScript.Text
