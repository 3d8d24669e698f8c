/-!
# White space

The characters of Unicode's `White_Space` property, and trimming at both ends of a text.
-/

namespace WorkerFleet.Text

/-- The code points with `White_Space`. -/
def isBlank (c : Char) : Bool :=
  let n := c.toNat
  (0x09 ≤ n && n ≤ 0x0D) || n == 0x20 || n == 0x85 || n == 0xA0 || n == 0x1680 ||
    (0x2000 ≤ n && n ≤ 0x200A) || n == 0x2028 || n == 0x2029 || n == 0x202F || n == 0x205F ||
    n == 0x3000

def trimLeft (text : List Char) : List Char := text.dropWhile isBlank

def trimRight (text : List Char) : List Char := (text.reverse.dropWhile isBlank).reverse

/-- The text without the white space at its two ends. -/
def trim (text : List Char) : List Char := trimRight (trimLeft text)

end WorkerFleet.Text
