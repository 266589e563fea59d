/-!
# White space

Which characters count as white space, and trimming it. Names, machine parts and list entries are
trimmed by this rule wherever they are read.
-/

namespace NativeVariants.Text

/-- White space of every script, line separators and the four information separators
(`\x1c` to `\x1f`) included; zero-width characters are not white space. -/
def isBlank (c : Char) : Bool :=
  let n := c.toNat
  (9 ≤ n && n ≤ 13) || (28 ≤ n && n ≤ 32) || n == 0x85 || n == 0xA0 || n == 0x1680 ||
    (0x2000 ≤ n && n ≤ 0x200A) || n == 0x2028 || n == 0x2029 || n == 0x202F || n == 0x205F ||
    n == 0x3000

/-- The text without the white space at its end. -/
def dropTrailing (cs : List Char) : List Char :=
  (cs.reverse.dropWhile isBlank).reverse

/-- The text without the white space at either end. -/
def trimChars (cs : List Char) : List Char :=
  dropTrailing (cs.dropWhile isBlank)

def trim (s : String) : String :=
  String.ofList (trimChars s.toList)

end NativeVariants.Text
