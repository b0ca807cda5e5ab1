/-!
Characters of the Unicode property White_Space, and texts trimmed of them at both ends.
-/
set_option autoImplicit false

namespace HostEngine

/-- The property White_Space. -/
def isBlank (c : Char) : Bool :=
  let n := c.toNat
  (0x9 ≤ n && n ≤ 0xD) || n = 0x20 || n = 0x85 || n = 0xA0 || n = 0x1680 ||
    (0x2000 ≤ n && n ≤ 0x200A) || n = 0x2028 || n = 0x2029 || n = 0x202F || n = 0x205F ||
    n = 0x3000

def dropTrailingBlanks (cs : List Char) : List Char :=
  (cs.reverse.dropWhile isBlank).reverse

def trimBlanks (cs : List Char) : List Char :=
  dropTrailingBlanks (cs.dropWhile isBlank)

end HostEngine
