import Conformance.Text.Hex
import Conformance.Text.Printable

/-!
# Quoted text

Messages show a text between single quotes, or between double quotes when it holds a single one
and no double one. What has no printed form is escaped by its code point.
-/

namespace Conformance.Text

def quoteFor (text : List Char) : Char :=
  if text.contains '\'' && !text.contains '"' then '"' else '\''

/-- An escape by code point: two, four or eight digits. -/
def escapeCode (code : Nat) : List Char :=
  if code < 0x100 then '\\' :: 'x' :: hexPadded 2 code
  else if code < 0x10000 then '\\' :: 'u' :: hexPadded 4 code
  else '\\' :: 'U' :: hexPadded 8 code

def quoteChar (quote c : Char) : List Char :=
  if c = quote ∨ c = '\\' then ['\\', c]
  else if c = '\t' then ['\\', 't']
  else if c = '\n' then ['\\', 'n']
  else if c = '\r' then ['\\', 'r']
  else if isPrintable c then [c]
  else escapeCode c.toNat

def quotedChars (text : List Char) : List Char :=
  let quote := quoteFor text
  quote :: text.flatMap (quoteChar quote) ++ [quote]

def quoted (text : String) : String := String.ofList (quotedChars text.toList)

/-- Bytes are quoted as basic Latin text behind a `b`, all others escaped. -/
def quotedBytes (bytes : List UInt8) : String :=
  let text := bytes.map fun byte => Char.ofNat byte.toNat
  let quote := quoteFor text
  let body := text.flatMap fun c =>
    if c.toNat < 0x80 then quoteChar quote c else escapeCode c.toNat
  String.ofList ('b' :: quote :: body ++ [quote])

end Conformance.Text
