/-!
# Base 64

Four signs of six bits write three bytes. Characters of no meaning are skipped; signs of padding
end the text where they complete a group.
-/

namespace Conformance.Text

def base64Value? (c : Char) : Option Nat :=
  if 'A' ≤ c ∧ c ≤ 'Z' then some (c.toNat - 0x41)
  else if 'a' ≤ c ∧ c ≤ 'z' then some (c.toNat - 0x61 + 26)
  else if '0' ≤ c ∧ c ≤ '9' then some (c.toNat - 0x30 + 52)
  else if c = '+' then some 62
  else if c = '/' then some 63
  else none

/-- Reads on with `filled` signs of a group, whose last bits are `left`, and `pads` signs of
padding directly before. The bytes are collected in reverse. -/
def decodeBase64From (filled left pads : Nat) (bytes : List UInt8) : List Char → Option (List UInt8)
  | [] => if filled = 0 then some bytes.reverse else none
  | c :: rest =>
    if c = '=' then
      if 2 ≤ filled then
        if 4 ≤ filled + (pads + 1) then some bytes.reverse
        else decodeBase64From filled left (pads + 1) bytes rest
      else decodeBase64From filled left pads bytes rest
    else
      match base64Value? c with
      | none => decodeBase64From filled left pads bytes rest
      | some value =>
        match filled with
        | 0 => decodeBase64From 1 value 0 bytes rest
        | 1 => decodeBase64From 2 (value % 16) 0 ((left * 4 + value / 16).toUInt8 :: bytes) rest
        | 2 => decodeBase64From 3 (value % 4) 0 ((left * 16 + value / 4).toUInt8 :: bytes) rest
        | _ => decodeBase64From 0 0 0 ((left * 64 + value).toUInt8 :: bytes) rest

/-- The bytes that a text writes, absent when its last group is incomplete. -/
def decodeBase64 (text : List Char) : Option (List UInt8) := decodeBase64From 0 0 0 [] text

end Conformance.Text
