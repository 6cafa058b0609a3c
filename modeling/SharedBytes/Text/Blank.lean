/-!
# White space

A character is blank when it has the White_Space property: the ASCII controls from tab to carriage
return, the spaces of every width, and the line and paragraph separators. A text is trimmed of the
blanks at both ends.
-/

namespace SharedBytes.Text

def isBlank (c : Char) : Bool :=
  let code := c.toNat
  (0x09 ≤ code && code ≤ 0x0d) || code == 0x20 || code == 0x85 || code == 0xa0
    || code == 0x1680 || (0x2000 ≤ code && code ≤ 0x200a) || code == 0x2028 || code == 0x2029
    || code == 0x202f || code == 0x205f || code == 0x3000

def trim (text : List Char) : List Char :=
  ((text.dropWhile isBlank).reverse.dropWhile isBlank).reverse

end SharedBytes.Text
