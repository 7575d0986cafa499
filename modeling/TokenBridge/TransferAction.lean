import TokenBridge.Message
import TokenBridge.Quantity

/-!
# Transfer bodies

What a message carries when it moves a token: which token, to whom and how much. The layout has exactly
101 bytes, all numbers big-endian, with a fixed tag in the middle:

    token domain 4 | token id 32 | tag 1 | to 32 | amount 32
-/

namespace TokenBridge

/-- A transfer of an amount of a token. -/
structure TransferAction where
  /-- The token. -/
  token : TokenId
  /-- Who gets it, in wide form. -/
  beneficiary : Word
  /-- How much of it. -/
  amount : Quantity
deriving DecidableEq

namespace TransferAction

/-- How many bytes a transfer body has. -/
def length : Nat := 101

/-- The tag of a transfer body. -/
def tag : UInt8 := 0x03

/-- The layout of a transfer. -/
def encode (a : TransferAction) : Bytes :=
  bytes32 a.token.domain ++ a.token.id.bytes ++ [tag] ++ a.beneficiary.bytes ++ a.amount.bytes

/-- The transfer that a byte string lays out. A wrong length is reported before a wrong tag. -/
def decode (body : Bytes) : Except MessageFault TransferAction :=
  if body.length ≠ length then .error (.bodyLength body.length)
  else if body.getD 36 0 ≠ tag then .error (.badTag (body.getD 36 0))
  else .ok {
    token := ⟨number32 (slice body 0 4), Word.ofBytes (slice body 4 32)⟩
    beneficiary := Word.ofBytes (slice body 37 32)
    amount := Quantity.ofBytes (slice body 69 32) }

end TransferAction

end TokenBridge
