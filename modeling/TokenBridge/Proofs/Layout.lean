import TokenBridge.Proofs.Message
import TokenBridge.Proofs.Outcome

/-!
# One layout each

A message has one layout, and a byte string lays out at most one message: reading and laying out are inverse to
each other (`message_layout_bijective`). So are reading and laying out the body of a transfer, where the byte
strings that are read are those of the one length that have the tag in its place (`transfer_body_bijective`), and
packing and unpacking the route of a message.

That what was laid out reads back is known (`Message.decode_encode`, `TransferAction.decode_encode`). Conversely
a byte string that is long enough consists of the slices that are read, one after the other
(`slice_append_drop`), and each slice is what its field is laid out as.
-/

namespace TokenBridge

/-! ### Slices -/

/-- A slice and what comes behind it are all that comes from its start on. -/
theorem slice_append_drop (bytes : Bytes) (start len : Nat) :
    slice bytes start len ++ bytes.drop (start + len) = bytes.drop start := by
  rw [slice, ← List.drop_drop, List.take_append_drop]

theorem length_slice {bytes : Bytes} {start len : Nat} (h : start + len ≤ bytes.length) :
    (slice bytes start len).length = len := by
  rw [slice, List.length_take, List.length_drop]
  omega

/-- Four bytes are the layout of the number that they write. -/
theorem bytes32_number32 {bytes : Bytes} (h : bytes.length = 4) : bytes32 (number32 bytes) = bytes := by
  have hlt : BigEndian.decode bytes < 2 ^ 32 := by
    have hdecode := BigEndian.decode_lt bytes
    rwa [h] at hdecode
  rw [bytes32, number32, UInt32.toNat_ofNat_of_lt' hlt, ← h, BigEndian.encode_decode]

section Fields

variable {bytes : Bytes} {start : Nat}

/-- A number is laid out as the slice that it was read off. -/
theorem bytes32_slice (h : start + 4 ≤ bytes.length) :
    bytes32 (number32 (slice bytes start 4)) = slice bytes start 4 :=
  bytes32_number32 (length_slice h)

/-- So is a word. -/
theorem bytes_slice (h : start + 32 ≤ bytes.length) :
    (Word.ofBytes (slice bytes start 32)).bytes = slice bytes start 32 :=
  Word.bytes_ofBytes (length_slice h)

end Fields

/-! ### Messages -/

namespace Message

/-- A byte string that reads as a message is the layout of that message. -/
theorem encode_of_decode {bytes : Bytes} {m : Message} (h : decode bytes = .ok m) : m.encode = bytes := by
  rw [decode] at h
  split at h
  · cases h
  · next hlength =>
    rw [headerLength] at hlength
    cases h
    dsimp only [encode, headerLength]
    rw [bytes32_slice (by omega), bytes_slice (by omega), bytes32_slice (by omega), bytes32_slice (by omega),
      bytes_slice (by omega)]
    -- The slices are put together again from the last one on.
    simp only [List.append_assoc]
    rw [slice_append_drop bytes 44 32, slice_append_drop bytes 40 4, slice_append_drop bytes 36 4,
      slice_append_drop bytes 4 32, slice_append_drop bytes 0 4, List.drop_zero]

theorem decode_eq_ok_iff {bytes : Bytes} {m : Message} : decode bytes = .ok m ↔ m.encode = bytes := by
  constructor
  · exact encode_of_decode
  · rintro rfl
    exact decode_encode m

/-- A byte string reads as a message exactly where it is long enough for the header. -/
theorem exists_decode_iff {bytes : Bytes} : (∃ m, decode bytes = .ok m) ↔ headerLength ≤ bytes.length := by
  rw [decode]
  split
  · next hshort => simp [Nat.not_le.2 hshort]
  · next hlong => simp [Nat.not_lt.1 hlong]

end Message

/-- **The layout of messages is a bijection** onto the byte strings of 76 bytes or more, and packing is one
between routes and numbers of 64 bits. -/
theorem message_layout_bijective :
    (∀ m : Message, Message.decode m.encode = .ok m) ∧
      (∀ bytes : Bytes, (∃ m, Message.decode bytes = .ok m) ↔ 76 ≤ bytes.length) ∧
      (∀ (bytes : Bytes) (m : Message), Message.decode bytes = .ok m ↔ m.encode = bytes) ∧
      (∀ packed : UInt64, (Route.unpack packed).pack = packed) ∧
      (∀ destination nonce : UInt32, Route.unpack (Route.pack ⟨destination, nonce⟩) = ⟨destination, nonce⟩) :=
  ⟨Message.decode_encode, fun _ => Message.exists_decode_iff, fun _ _ => Message.decode_eq_ok_iff,
    Route.pack_unpack, fun destination nonce => Route.unpack_pack ⟨destination, nonce⟩⟩

/-! ### Transfer bodies -/

namespace TransferAction

variable {bytes : Bytes}

theorem decode_of_length (hlength : bytes.length ≠ 101) :
    decode bytes = .error (.bodyLength bytes.length) :=
  if_pos hlength

theorem decode_of_badTag {found : UInt8} (hlength : bytes.length = 101) (hbyte : bytes[36]? = some found)
    (hbad : found ≠ 0x03) : decode bytes = .error (.badTag found) := by
  have hget : bytes.getD 36 0 = found := by rw [List.getD_eq_getElem?_getD, hbyte, Option.getD_some]
  have hlong : ¬ bytes.length ≠ length := not_not_intro hlength
  rw [decode, if_neg hlong, hget]
  exact if_pos hbad

/-- A byte string of the right length with the tag in its place is the layout of the transfer that it reads
as. -/
theorem exists_decode (hlength : bytes.length = 101) (hbyte : bytes[36]? = some 0x03) :
    ∃ a, decode bytes = .ok a ∧ a.encode = bytes := by
  have hget : bytes.getD 36 0 = tag := by rw [List.getD_eq_getElem?_getD, hbyte, Option.getD_some, tag]
  have htag : [tag] = slice bytes 36 1 := by
    rw [slice, List.take_one, List.head?_drop, hbyte]
    rfl
  have hamount : (Quantity.ofBytes (slice bytes 69 32)).bytes = slice bytes 69 32 :=
    Quantity.bytes_ofBytes (length_slice (by omega))
  -- Nothing comes behind the last slice.
  have hlast : slice bytes 69 32 = bytes.drop 69 := by
    rw [← slice_append_drop bytes 69 32, List.drop_of_length_le (by omega), List.append_nil]
  refine ⟨_, (if_neg (not_not_intro hlength)).trans (if_neg (not_not_intro hget)), ?_⟩
  dsimp only [encode]
  rw [bytes32_slice (by omega), bytes_slice (by omega), htag, bytes_slice (by omega), hamount, hlast]
  simp only [List.append_assoc]
  rw [slice_append_drop bytes 37 32, slice_append_drop bytes 36 1, slice_append_drop bytes 4 32,
    slice_append_drop bytes 0 4, List.drop_zero]

/-- What a byte string reads as, by its length and its tag. -/
theorem decode_cases (bytes : Bytes) :
    bytes.length ≠ 101 ∧ decode bytes = .error (.bodyLength bytes.length) ∨
      (∃ found, bytes.length = 101 ∧ bytes[36]? = some found ∧ found ≠ 0x03 ∧
        decode bytes = .error (.badTag found)) ∨
      ∃ a, bytes.length = 101 ∧ bytes[36]? = some 0x03 ∧ decode bytes = .ok a ∧ a.encode = bytes := by
  by_cases hlength : bytes.length = 101
  · obtain ⟨found, hbyte⟩ : ∃ found, bytes[36]? = some found := ⟨_, List.getElem?_eq_getElem (by omega)⟩
    by_cases htag : found = 0x03
    · obtain ⟨a, hdecode, hencode⟩ := exists_decode hlength (htag ▸ hbyte)
      exact .inr (.inr ⟨a, hlength, htag ▸ hbyte, hdecode, hencode⟩)
    · exact .inr (.inl ⟨found, hlength, hbyte, htag, decode_of_badTag hlength hbyte htag⟩)
  · exact .inl ⟨hlength, decode_of_length hlength⟩

theorem decode_eq_ok_iff {a : TransferAction} : decode bytes = .ok a ↔ a.encode = bytes := by
  constructor
  · intro h
    rcases decode_cases bytes with ⟨-, hdecode⟩ | ⟨_, -, -, -, hdecode⟩ | ⟨a', -, -, hdecode, hencode⟩
    · cases hdecode.symm.trans h
    · cases hdecode.symm.trans h
    · cases hdecode.symm.trans h
      exact hencode
  · rintro rfl
    exact decode_encode a

theorem exists_decode_iff : (∃ a, decode bytes = .ok a) ↔ bytes.length = 101 ∧ bytes[36]? = some 0x03 := by
  constructor
  · rintro ⟨a, h⟩
    rcases decode_cases bytes with ⟨-, hdecode⟩ | ⟨_, -, -, -, hdecode⟩ | ⟨_, hlength, hbyte, -⟩
    · cases hdecode.symm.trans h
    · cases hdecode.symm.trans h
    · exact ⟨hlength, hbyte⟩
  · rintro ⟨hlength, hbyte⟩
    obtain ⟨a, hdecode, -⟩ := exists_decode hlength hbyte
    exact ⟨a, hdecode⟩

theorem decode_eq_bodyLength_iff :
    decode bytes = .error (.bodyLength bytes.length) ↔ bytes.length ≠ 101 := by
  constructor
  · intro h
    rcases decode_cases bytes with ⟨hlength, -⟩ | ⟨_, -, -, -, hdecode⟩ | ⟨_, -, -, hdecode, -⟩
    · exact hlength
    · cases hdecode.symm.trans h
    · cases hdecode.symm.trans h
  · exact decode_of_length

theorem decode_eq_badTag_iff {found : UInt8} :
    decode bytes = .error (.badTag found) ↔ bytes.length = 101 ∧ bytes[36]? = some found ∧ found ≠ 0x03 := by
  constructor
  · intro h
    rcases decode_cases bytes with ⟨-, hdecode⟩ | ⟨_, hlength, hbyte, hbad, hdecode⟩ | ⟨_, -, -, hdecode, -⟩
    · cases hdecode.symm.trans h
    · cases hdecode.symm.trans h
      exact ⟨hlength, hbyte, hbad⟩
    · cases hdecode.symm.trans h
  · rintro ⟨hlength, hbyte, hbad⟩
    exact decode_of_badTag hlength hbyte hbad

end TransferAction

/-- What is refused as no message is refused for the fault that it has. -/
theorem mapError_invalidMessage_iff {α : Type} {x : Except MessageFault α} {fault : MessageFault} :
    x.mapError BridgeError.invalidMessage = .error (.invalidMessage fault) ↔ x = .error fault := by
  cases x <;> simp

/-- **The layout of transfer bodies is a bijection** onto the byte strings of 101 bytes with the tag in their
place 36. Any other byte string is refused as no message, for its length before its tag. -/
theorem transfer_body_bijective :
    (∀ a : TransferAction, TransferAction.decode a.encode = .ok a) ∧
      (∀ bytes : Bytes,
        (∃ a, TransferAction.decode bytes = .ok a) ↔ bytes.length = 101 ∧ bytes[36]? = some 0x03) ∧
      (∀ bytes : Bytes, (TransferAction.decode bytes).mapError BridgeError.invalidMessage =
        .error (.invalidMessage (.bodyLength bytes.length)) ↔ bytes.length ≠ 101) ∧
      (∀ (bytes : Bytes) (found : UInt8), (TransferAction.decode bytes).mapError BridgeError.invalidMessage =
        .error (.invalidMessage (.badTag found)) ↔
          bytes.length = 101 ∧ bytes[36]? = some found ∧ found ≠ 0x03) ∧
      (∀ (bytes : Bytes) (a : TransferAction), TransferAction.decode bytes = .ok a ↔ a.encode = bytes) :=
  ⟨TransferAction.decode_encode, fun _ => TransferAction.exists_decode_iff,
    fun _ => mapError_invalidMessage_iff.trans TransferAction.decode_eq_bodyLength_iff,
    fun _ _ => mapError_invalidMessage_iff.trans TransferAction.decode_eq_badTag_iff,
    fun _ _ => TransferAction.decode_eq_ok_iff⟩

end TokenBridge
