/-
# `Text.Blank` — white space

`isBlank` is the Unicode property White_Space: 25 code points, more than the six that core's
`Char.isWhitespace` knows.  `trim` takes them off both ends of a text.
-/

namespace FieldRules.Text

/-- A character of the property White_Space. -/
def isBlank (c : Char) : Bool :=
  let n := c.toNat
  (9 ≤ n && n ≤ 13) || n == 0x20 || n == 0x85 || n == 0xA0 || n == 0x1680
    || (0x2000 ≤ n && n ≤ 0x200A) || n == 0x2028 || n == 0x2029 || n == 0x202F || n == 0x205F
    || n == 0x3000

def trim (cs : List Char) : List Char :=
  ((cs.dropWhile isBlank).reverse.dropWhile isBlank).reverse

end FieldRules.Text
