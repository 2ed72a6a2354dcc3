/-!
# Blank characters

The blank characters are the 25 white-space characters of the character standard: the ASCII
controls from tab to carriage return, the space, and the further separators.  This file defines:

* `isBlank`: being one of them;
* `trimStart`, `trim`: a text without its leading, or without its leading and trailing, blanks.
-/

namespace Conform

def isBlank (c : Char) : Bool :=
  let n := c.toNat
  (9 ≤ n && n ≤ 13) || n == 0x20 || n == 0x85 || n == 0xA0 || n == 0x1680 ||
    (0x2000 ≤ n && n ≤ 0x200A) || n == 0x2028 || n == 0x2029 || n == 0x202F || n == 0x205F ||
    n == 0x3000

def trimStart (text : List Char) : List Char := text.dropWhile isBlank

/-- The characters without leading and trailing blanks. -/
def trimChars (text : List Char) : List Char :=
  (trimStart (trimStart text).reverse).reverse

def trim (text : String) : String := String.ofList (trimChars text.toList)

end Conform
