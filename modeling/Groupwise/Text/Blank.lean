/-!
# White space

The white space of Unicode, and the trimming of it from both ends of a text.
-/

namespace Groupwise.Text

/-- The characters with the property `White_Space`. -/
def isBlank (c : Char) : Bool :=
  let n := c.toNat
  (9 ≤ n && n ≤ 13) || n == 0x20 || n == 0x85 || n == 0xA0 || n == 0x1680 ||
    (0x2000 ≤ n && n ≤ 0x200A) || n == 0x2028 || n == 0x2029 || n == 0x202F || n == 0x205F ||
    n == 0x3000

/-- A text without white space at its front. -/
def trimFront (s : List Char) : List Char := s.dropWhile isBlank

/-- A text without white space at its end. -/
def trimBack (s : List Char) : List Char := (s.reverse.dropWhile isBlank).reverse

/-- A text without white space at its ends. -/
def trim (s : List Char) : List Char := trimBack (trimFront s)

end Groupwise.Text
