-- Bytes shown as text, whatever they are. A sequence of bytes that encodes no character is shown as
-- one replacement character for each longest beginning of an encoding.
namespace Arbor.Text

def replacement : Char := '\ufffd'

-- How an encoding goes on after its first byte: the bits that the first byte gives, the range of
-- the second byte, and the number of bytes after the second.
structure Lead where
  bits : Nat
  low : UInt8
  high : UInt8
  more : Nat

-- Overlong forms, surrogates and values past the last code point are kept out by the range of the
-- second byte.
def lead? (byte : UInt8) : Option Lead :=
  let bits := byte.toNat
  if 0xc2 ≤ byte && byte ≤ 0xdf then some ⟨bits % 0x20, 0x80, 0xbf, 0⟩
  else if byte = 0xe0 then some ⟨bits % 0x10, 0xa0, 0xbf, 1⟩
  else if byte = 0xed then some ⟨bits % 0x10, 0x80, 0x9f, 1⟩
  else if 0xe1 ≤ byte && byte ≤ 0xef then some ⟨bits % 0x10, 0x80, 0xbf, 1⟩
  else if byte = 0xf0 then some ⟨bits % 0x08, 0x90, 0xbf, 2⟩
  else if byte = 0xf4 then some ⟨bits % 0x08, 0x80, 0x8f, 2⟩
  else if 0xf1 ≤ byte && byte ≤ 0xf3 then some ⟨bits % 0x08, 0x80, 0xbf, 2⟩
  else none

-- A first byte, or the rest of an encoding of which `bits` are known: the next byte is between
-- `low` and `high`, with `more` bytes after that.
inductive Expecting where
  | first
  | next (bits : Nat) (low high : UInt8) (more : Nat)

def firstByte (byte : UInt8) : Option Char × Expecting :=
  if byte < 0x80 then (some (Char.ofNat byte.toNat), .first)
  else match lead? byte with
    | some lead => (none, .next lead.bits lead.low lead.high lead.more)
    | none => (some replacement, .first)

def decodeFrom (done : List Char) : Expecting → List UInt8 → List Char
  | .first, [] => done.reverse
  | .next .., [] => (replacement :: done).reverse
  | .first, byte :: rest =>
    let (shown, expecting) := firstByte byte
    decodeFrom (shown.toList ++ done) expecting rest
  | .next bits low high more, byte :: rest =>
    if low ≤ byte && byte ≤ high then
      let bits := bits * 0x40 + byte.toNat % 0x40
      match more with
      | 0 => decodeFrom (Char.ofNat bits :: done) .first rest
      | more + 1 => decodeFrom done (.next bits 0x80 0xbf more) rest
    else
      let (shown, expecting) := firstByte byte
      decodeFrom (shown.toList ++ replacement :: done) expecting rest

def decodeLossy (bytes : List UInt8) : String := String.ofList (decodeFrom [] .first bytes)

end Arbor.Text
