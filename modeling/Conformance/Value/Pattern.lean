import Conformance.Regex.Reader
import Conformance.Value

/-!
# Patterns as values

A pattern written as text is searched for in text, and one written as bytes in bytes. It keeps the
flags written in it beside those given.
-/

namespace Conformance

/-- The characters that a source writes; a byte is the character of its code. -/
def PatternSource.chars : PatternSource → List Char
  | .text s => s.toList
  | .bytes b => b.map fun (byte : UInt8) => Char.ofNat byte.toNat

def PatternSource.isBytes : PatternSource → Bool
  | .text _ => false
  | .bytes _ => true

/-- The pattern of a source, or what keeps it from being one. -/
def PatternSource.pattern (source : PatternSource) (flags : Regex.Flags) : Except Fault Pattern :=
  match Regex.read flags source.isBytes source.chars with
  | .ok expression => .ok ⟨source, expression.flags, expression.node⟩
  | .error fault => .error (.raised .any fault.message)

end Conformance
