import TokenBridge.Error
import TokenBridge.Keccak

/-!
# Messages

A message travels from the home of one domain to another domain. It is laid out as a header of 76 bytes,
all numbers big-endian, and a body of any length:

    origin 4 | sender 32 | nonce 4 | destination 4 | recipient 32 | body

A byte string is a message exactly where it is long enough for the header. The destination and the nonce
also travel packed into one number of 64 bits, and the hash of the layout is the leaf of the message.
-/

namespace TokenBridge

/-- Part of a byte string: `len` bytes from position `start`. -/
def slice (bytes : Bytes) (start len : Nat) : Bytes := (bytes.drop start).take len

/-- The four bytes of a 32-bit number. -/
def bytes32 (n : UInt32) : Bytes := BigEndian.encode 4 n.toNat

/-- The 32-bit number that four bytes write. -/
def number32 (bytes : Bytes) : UInt32 := UInt32.ofNat (BigEndian.decode bytes)

/-- A message from one domain to another. -/
structure Message where
  /-- The domain that it comes from. -/
  origin : DomainId
  /-- Who sends it, in wide form. -/
  sender : Word
  /-- Its place among the messages from its origin to its destination. -/
  nonce : UInt32
  /-- The domain that it goes to. -/
  destination : DomainId
  /-- Who receives it, in wide form. -/
  recipient : Word
  /-- What it carries. -/
  body : Bytes
deriving DecidableEq

namespace Message

/-- How many bytes the header has. -/
def headerLength : Nat := 76

/-- The layout of a message. -/
def encode (m : Message) : Bytes :=
  bytes32 m.origin ++ m.sender.bytes ++ bytes32 m.nonce ++ bytes32 m.destination ++ m.recipient.bytes
    ++ m.body

/-- The message that a byte string lays out. -/
def decode (bytes : Bytes) : Except MessageFault Message :=
  if bytes.length < headerLength then .error (.shortHeader bytes.length)
  else .ok {
    origin := number32 (slice bytes 0 4)
    sender := Word.ofBytes (slice bytes 4 32)
    nonce := number32 (slice bytes 36 4)
    destination := number32 (slice bytes 40 4)
    recipient := Word.ofBytes (slice bytes 44 32)
    body := bytes.drop headerLength }

/-- The leaf that stands for a laid out message: its hash. -/
def leaf (bytes : Bytes) : Word := Keccak.hash bytes

end Message

/-- The destination of a message and its nonce there. -/
structure Route where
  /-- The domain that the message goes to. -/
  destination : DomainId
  /-- Its place among the messages to that domain. -/
  nonce : UInt32
deriving DecidableEq

namespace Route

/-- A route in one number: the destination in the high half, the nonce in the low half. -/
def pack (r : Route) : UInt64 := UInt64.ofNat (r.destination.toNat * 2 ^ (32 : Nat) + r.nonce.toNat)

/-- The route that a number packs. -/
def unpack (packed : UInt64) : Route :=
  ⟨UInt32.ofNat (packed.toNat / 2 ^ (32 : Nat)), UInt32.ofNat (packed.toNat % 2 ^ (32 : Nat))⟩

theorem unpack_pack (r : Route) : unpack r.pack = r := by
  have hd := r.destination.toNat_lt
  have hn := r.nonce.toNat_lt
  have hp : r.pack.toNat = r.destination.toNat * 2 ^ (32 : Nat) + r.nonce.toNat := by
    rw [pack, UInt64.toNat_ofNat']
    omega
  have hq : (r.destination.toNat * 2 ^ (32 : Nat) + r.nonce.toNat) / 2 ^ (32 : Nat) = r.destination.toNat := by omega
  have hr : (r.destination.toNat * 2 ^ (32 : Nat) + r.nonce.toNat) % 2 ^ (32 : Nat) = r.nonce.toNat := by omega
  rw [unpack, hp, hq, hr, UInt32.ofNat_toNat, UInt32.ofNat_toNat]

theorem pack_unpack (packed : UInt64) : (unpack packed).pack = packed := by
  have hlt := packed.toNat_lt
  apply UInt64.toNat_inj.1
  simp only [pack, unpack, UInt64.toNat_ofNat', UInt32.toNat_ofNat']
  omega

end Route

/-- The route of a message. -/
def Message.route (m : Message) : Route := ⟨m.destination, m.nonce⟩

end TokenBridge
