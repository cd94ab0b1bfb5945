import Conformance.Text.Hex

/-!
# Strict UTF-8

Decoding stops at the first byte sequence that is no character and says which bytes they are. The
second byte of a sequence has its own bounds, which rule out overlong forms, surrogates and code
points beyond the last.
-/

namespace Conformance.Text

inductive Utf8Problem
  | invalidStart
  | invalidContinuation
  | truncated
  deriving DecidableEq

def Utf8Problem.message : Utf8Problem → String
  | .invalidStart => "invalid start byte"
  | .invalidContinuation => "invalid continuation byte"
  | .truncated => "unexpected end of data"

/-- Where decoding failed: the offset and value of the first byte, how many bytes are at fault,
and why. -/
structure Utf8Fault where
  offset : Nat
  first : UInt8
  count : Nat
  problem : Utf8Problem
  deriving DecidableEq

def Utf8Fault.message (fault : Utf8Fault) : String :=
  let place :=
    if fault.count = 1 then
      "byte 0x" ++ String.ofList (hexPadded 2 fault.first.toNat) ++ " in position "
        ++ toString fault.offset
    else
      "bytes in position " ++ toString fault.offset ++ "-"
        ++ toString (fault.offset + fault.count - 1)
  "'utf-8' codec can't decode " ++ place ++ ": " ++ fault.problem.message

/-- How a first byte goes on: the bounds of the second byte, the number of bytes after it, and
the bits that the first byte gives. -/
structure Lead where
  low : Nat
  high : Nat
  more : Nat
  bits : Nat

def lead? (byte : Nat) : Option Lead :=
  if byte < 0xc2 then none
  else if byte < 0xe0 then some ⟨0x80, 0xbf, 0, byte - 0xc0⟩
  else if byte = 0xe0 then some ⟨0xa0, 0xbf, 1, 0⟩
  else if byte = 0xed then some ⟨0x80, 0x9f, 1, 0xd⟩
  else if byte < 0xf0 then some ⟨0x80, 0xbf, 1, byte - 0xe0⟩
  else if byte = 0xf0 then some ⟨0x90, 0xbf, 2, 0⟩
  else if byte < 0xf4 then some ⟨0x80, 0xbf, 2, byte - 0xf0⟩
  else if byte = 0xf4 then some ⟨0x80, 0x8f, 2, 4⟩
  else none

/-- Takes `count` plain continuation bytes into `code`; on failure tells how many were read and
whether the input ended. -/
def continuation : Nat → Nat → Nat → List UInt8 → Except (Nat × Utf8Problem) (Nat × List UInt8)
  | 0, code, _, rest => .ok (code, rest)
  | _ + 1, _, read, [] => .error (read, .truncated)
  | count + 1, code, read, byte :: rest =>
    if 0x80 ≤ byte.toNat ∧ byte.toNat ≤ 0xbf then
      continuation count (code * 64 + (byte.toNat - 0x80)) (read + 1) rest
    else .error (read, .invalidContinuation)

/-- The next character, or how many bytes are at fault and why. -/
def decodeChar (first : UInt8) (rest : List UInt8) :
    Except (Nat × Utf8Problem) (Char × List UInt8) :=
  if first.toNat < 0x80 then .ok (Char.ofNat first.toNat, rest)
  else
    match lead? first.toNat with
    | none => .error (1, .invalidStart)
    | some lead =>
      match rest with
      | [] => .error (1, .truncated)
      | second :: rest =>
        if second.toNat < lead.low ∨ lead.high < second.toNat then
          .error (1, .invalidContinuation)
        else
          match continuation lead.more (lead.bits * 64 + (second.toNat - 0x80)) 2 rest with
          | .error fault => .error fault
          | .ok (code, rest) => .ok (Char.ofNat code, rest)

def decodeUtf8From : Nat → List UInt8 → Nat → List Char → Except Utf8Fault (List Char)
  | _, [], _, text => .ok text.reverse
  | 0, _ :: _, _, text => .ok text.reverse
  | fuel + 1, first :: rest, offset, text =>
    match decodeChar first rest with
    | .error (count, problem) => .error ⟨offset, first, count, problem⟩
    | .ok (c, after) =>
      decodeUtf8From fuel after (offset + c.utf8Size) (c :: text)

/-- The text that bytes encode; every step takes a byte, so their number is fuel enough. -/
def decodeUtf8 (bytes : List UInt8) : Except Utf8Fault (List Char) :=
  decodeUtf8From bytes.length bytes 0 []

/-- Every line end, of one or two characters, becomes a line feed. -/
def unifyNewlines : List Char → List Char
  | '\r' :: '\n' :: rest => '\n' :: unifyNewlines rest
  | '\r' :: rest => '\n' :: unifyNewlines rest
  | c :: rest => c :: unifyNewlines rest
  | [] => []

end Conformance.Text
