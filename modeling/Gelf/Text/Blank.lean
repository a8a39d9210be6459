import Gelf.Text.Ranges

/-!
# Gelf.Text.Blank

White space: the characters of bidirectional class WS, B or S or of category Zs.

* `isBlank`: every such character, U+001C to U+001F included.
* `strip`: a text without the blanks at its two ends.
* `isBlankText`: a text of blanks only.
-/

namespace Gelf.Text

def blanks : Ranges :=
  [(9, 13), (28, 32), (133, 133), (160, 160), (5760, 5760), (8192, 8202), (8232, 8233),
   (8239, 8239), (8287, 8287), (12288, 12288)]

def isBlank (c : Char) : Bool := blanks.has c.toNat

def stripBy (p : Char → Bool) (s : List Char) : List Char :=
  ((s.dropWhile p).reverse.dropWhile p).reverse

def strip (s : List Char) : List Char := stripBy isBlank s

/-- Is the text empty but for white space? -/
def isBlankText (s : List Char) : Bool := s.all isBlank

end Gelf.Text
