/-!
# Blanks

The characters with the Unicode property White_Space, and the two ways in which text is cleared of
them: `strip` at both ends, `squeeze` everywhere.
-/

namespace FrameReplay.Text

/-- Whether a character has the Unicode property White_Space. -/
def isBlank (c : Char) : Bool :=
  let n := c.val.toNat
  (9 ≤ n && n ≤ 13) || n == 0x20 || n == 0x85 || n == 0xA0 || n == 0x1680 ||
    (0x2000 ≤ n && n ≤ 0x200A) || n == 0x2028 || n == 0x2029 || n == 0x202F || n == 0x205F ||
    n == 0x3000

/-- Text without the blanks at its ends. -/
def strip (text : List Char) : List Char :=
  ((text.dropWhile isBlank).reverse.dropWhile isBlank).reverse

def squeeze (text : List Char) : List Char := text.filter fun c => !isBlank c

end FrameReplay.Text
