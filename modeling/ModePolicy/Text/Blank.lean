/-!
White space and its removal from the ends of a text.

White space is Unicode's White_Space property together with the four information separators U+001C
to U+001F. Zero-width characters are not white space.
-/

namespace ModePolicy.Text

/-- A white-space character. -/
def isBlankCode (n : Nat) : Bool :=
  (9 ≤ n && n ≤ 13) || (28 ≤ n && n ≤ 32) || n == 0x85 || n == 0xA0 || n == 0x1680
    || (0x2000 ≤ n && n ≤ 0x200A) || n == 0x2028 || n == 0x2029 || n == 0x202F || n == 0x205F
    || n == 0x3000

/-- A white-space character. -/
def isBlank (c : Char) : Bool := isBlankCode c.toNat

/-- White space of ASCII, the information separators excepted. -/
def isAsciiBlankCode (n : Nat) : Bool := (9 ≤ n && n ≤ 13) || n == 32

/-- The characters without the white space at both ends. -/
def trim (cs : List Char) : List Char :=
  ((cs.dropWhile isBlank).reverse.dropWhile isBlank).reverse

/-- A text without the white space at both ends. -/
def strip (s : String) : String := String.ofList (trim s.toList)

/-- A text of white space only. -/
def isBlankText (s : String) : Bool := s.toList.all isBlank

end ModePolicy.Text
