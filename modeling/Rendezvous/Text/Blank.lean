/-! White space: the characters with the Unicode property of that name, and trimming them off. -/

namespace Rendezvous.Text

def isBlank (c : Char) : Bool :=
  let n := c.toNat
  (9 ≤ n && n ≤ 13) || n == 0x20 || n == 0x85 || n == 0xA0 || n == 0x1680 ||
    (0x2000 ≤ n && n ≤ 0x200A) || n == 0x2028 || n == 0x2029 || n == 0x202F || n == 0x205F ||
    n == 0x3000

def dropEndWhile (p : α → Bool) (xs : List α) : List α :=
  (xs.reverse.dropWhile p).reverse

def trim (s : String) : String :=
  String.ofList (dropEndWhile isBlank (s.toList.dropWhile isBlank))

/-- No text is left once white space is trimmed off. -/
def blank (s : String) : Bool := s.toList.all isBlank

def asciiLower (s : String) : String := String.ofList (s.toList.map Char.toLower)

end Rendezvous.Text
