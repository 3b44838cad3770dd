set_option autoImplicit false

namespace Dialogue.Text

-- Ranges of White_Space, in ascending order, ends included.
def blankRanges : List (Nat × Nat) :=
  [(0x9, 0xD), (0x20, 0x20), (0x85, 0x85), (0xA0, 0xA0), (0x1680, 0x1680), (0x2000, 0x200A),
   (0x2028, 0x2029), (0x202F, 0x202F), (0x205F, 0x205F), (0x3000, 0x3000)]

def isBlankChar (c : Char) : Bool :=
  blankRanges.any fun range => range.1 ≤ c.toNat && c.toNat ≤ range.2

def isBlank (text : String) : Bool := text.toList.all isBlankChar

def trimStart (chars : List Char) : List Char := chars.dropWhile isBlankChar

def trimEnd (chars : List Char) : List Char := (chars.reverse.dropWhile isBlankChar).reverse

def trim (text : String) : String := String.ofList (trimEnd (trimStart text.toList))

example : (blankRanges.map fun range => range.2 + 1 - range.1).sum = 25 := by decide

end Dialogue.Text
