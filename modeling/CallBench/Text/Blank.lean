/-
# White space and words

Settings are read with the white space around them removed and with the case of
ASCII letters ignored. White space here is the Unicode property White_Space, which
holds for twenty-five characters; the zero-width space and the byte order mark
are not among them.
-/

import CallBench.Text.CodePoint

namespace CallBench.Text

/-- Ranges of the characters that are white space. -/
def blankRanges : List CodePointRange :=
  [(0x9, 0xd), (0x20, 0x20), (0x85, 0x85), (0xa0, 0xa0), (0x1680, 0x1680), (0x2000, 0x200a),
    (0x2028, 0x2029), (0x202f, 0x202f), (0x205f, 0x205f), (0x3000, 0x3000)]

/-- Whether a character is white space. -/
def isBlank (c : Char) : Bool :=
  inRanges blankRanges c

/-- The characters without the white space on either side. -/
def trimChars (text : List Char) : List Char :=
  ((text.dropWhile isBlank).reverse.dropWhile isBlank).reverse

/-- A text without the white space on either side. -/
def trim (text : String) : String :=
  .ofList (trimChars text.toList)

/-- ASCII capitals become small letters; every other character stays. -/
def foldCase (text : String) : List Char :=
  text.toList.map Char.toLower

/-- Whether two texts differ at most in the case of their ASCII letters. -/
def sameWord (text word : String) : Bool :=
  foldCase text == foldCase word

end CallBench.Text
