import TokenBridge.Error

/-!
# Identities

The word by which something is named across domains comes from an address, from a byte string or from text.
Byte strings of up to 32 bytes are filled up with zero bytes in front; text is hex digits, as many as fit,
with or without a mark. What does not fit is refused with its cause, and a word that is no wide form of an
address is refused where an address is wanted.
-/

namespace TokenBridge

namespace Word

/-- The address whose wide form a word is, or why there is none. -/
def narrow (w : Word) : Except AddressFault Address :=
  match w.narrow? with
  | some address => .ok address
  | none => .error (.notNarrow w)

/-- The word that a byte string names: zero bytes in front fill it up. -/
def ofShortBytes (bytes : Bytes) : Except AddressFault Word :=
  if bytes.length ≤ 32 then .ok (ofBytes bytes) else .error (.tooLong bytes.length)

end Word

namespace Identity

/-- The first character that is no hex digit, with its position. Every character before it is a digit and
has one byte, so the position counts bytes as well as characters. -/
def firstBad? : List Char → Nat → Option (Char × Nat)
  | [], _ => none
  | c :: rest, position =>
    if (Hex.digit? c).isSome then firstBad? rest (position + 1) else some (c, position)

/-- The character whose code point is the first byte of another character. -/
def firstByte (c : Char) : Char :=
  match String.utf8EncodeChar c with
  | b :: _ => Char.ofNat b.toNat
  | [] => c

-- The sum of a list of numbers starts from the numeral, whatever else a module imports.
attribute [local instance (10001)] Zero.ofOfNat0

/-- How many bytes a text has. -/
def byteLength (cs : List Char) : Nat := (cs.map Char.utf8Size).sum

/-- The digits of an identity: without a mark, and with a zero in front where the number of bytes is odd. -/
def digitsOf (s : String) : List Char :=
  let ds := Hex.dropMark s.toList
  if byteLength ds % 2 = 1 then '0' :: ds else ds

/-- The bytes that hex digits write, two digits for each byte. -/
def bytesOf : List Char → Bytes
  | high :: low :: rest =>
    UInt8.ofNat ((Hex.digit? high).getD 0 * 16 + (Hex.digit? low).getD 0) :: bytesOf rest
  | _ => []

/-- Reads an identity from text. A character that is no digit is reported before a length that is too
great. -/
def parse (s : String) : Except AddressFault Word :=
  let ds := digitsOf s
  match firstBad? ds 0 with
  | some (c, position) => .error (.badDigit s (firstByte c) position)
  | none => Word.ofShortBytes (bytesOf ds)

end Identity

end TokenBridge
