/-!
# Blank characters

Spaces and separators of every script, and the controls that separate text.
-/

namespace Conformance.Text

def isBlankCode (code : Nat) : Bool :=
  (0x09 ≤ code && code ≤ 0x0d) || (0x1c ≤ code && code ≤ 0x20) || code == 0x85 || code == 0xa0
    || code == 0x1680 || (0x2000 ≤ code && code ≤ 0x200a) || code == 0x2028 || code == 0x2029
    || code == 0x202f || code == 0x205f || code == 0x3000

def isBlank (c : Char) : Bool := isBlankCode c.toNat

def trim (text : List Char) : List Char :=
  ((text.dropWhile isBlank).reverse.dropWhile isBlank).reverse

end Conformance.Text
