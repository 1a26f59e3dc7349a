/-!
# White space

The characters with the white space property of Unicode, and trimming by it.
-/

namespace FareSearch.Text

/-- White space: the five controls from tab to carriage return, the space, the next-line control,
and the separators of the standard. -/
def isBlank (c : Char) : Bool :=
  let n := c.toNat
  (9 ≤ n && n ≤ 13) || n == 0x20 || n == 0x85 || n == 0xA0 || n == 0x1680 ||
    (0x2000 ≤ n && n ≤ 0x200A) || n == 0x2028 || n == 0x2029 || n == 0x202F || n == 0x205F ||
    n == 0x3000

def trimStart (chars : List Char) : List Char :=
  chars.dropWhile isBlank

def trimEnd (chars : List Char) : List Char :=
  (chars.reverse.dropWhile isBlank).reverse

/-- Text without the white space at both ends. -/
def trim (text : String) : String :=
  String.ofList (trimEnd (trimStart text.toList))

end FareSearch.Text
