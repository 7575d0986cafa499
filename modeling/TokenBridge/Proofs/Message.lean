import TokenBridge.TransferAction
import Mathlib.Data.List.GetD

/-!
# Reading back what was laid out

A message that is laid out and read again is the same message (`Message.decode_encode`), and so is a transfer
body (`TransferAction.decode_encode`). Every field is found where the layout puts it, since the fields before
it have fixed lengths (`slice_append`).
-/

namespace TokenBridge

/-- Behind `front`, a field is found at the length of `front`. -/
theorem slice_append {front field : Bytes} {start len : Nat} (hstart : front.length = start)
    (hlen : field.length = len) (rest : Bytes) : slice (front ++ (field ++ rest)) start len = field := by
  rw [slice, ← hstart, List.drop_left, ← hlen, List.take_left]

/-- The first field is found at the beginning. -/
theorem slice_zero_append {field : Bytes} {len : Nat} (hlen : field.length = len) (rest : Bytes) :
    slice (field ++ rest) 0 len = field := by
  rw [slice, List.drop_zero, ← hlen, List.take_left]

@[simp] theorem length_bytes32 (n : UInt32) : (bytes32 n).length = 4 := BigEndian.length_encode 4 _

@[simp] theorem number32_bytes32 (n : UInt32) : number32 (bytes32 n) = n := by
  rw [number32, bytes32, BigEndian.decode_encode n.toNat_lt, UInt32.ofNat_toNat]

namespace Message

/-- Reading a laid out message gives the message. -/
theorem decode_encode (m : Message) : decode m.encode = .ok m := by
  have hlength : ¬ m.encode.length < headerLength := by
    simp only [encode, headerLength, List.length_append, length_bytes32, Word.length_bytes]
    omega
  have horigin : slice m.encode 0 4 = bytes32 m.origin := by
    rw [encode]
    simp only [List.append_assoc]
    exact slice_zero_append (length_bytes32 _) _
  have hsender : slice m.encode 4 32 = m.sender.bytes := by
    rw [encode]
    simp only [List.append_assoc]
    exact slice_append (length_bytes32 _) (Word.length_bytes _) _
  have hnonce : slice m.encode 36 4 = bytes32 m.nonce := by
    rw [encode, List.append_assoc, List.append_assoc, List.append_assoc]
    exact slice_append (by simp) (length_bytes32 _) _
  have hdestination : slice m.encode 40 4 = bytes32 m.destination := by
    rw [encode, List.append_assoc, List.append_assoc]
    exact slice_append (by simp) (length_bytes32 _) _
  have hrecipient : slice m.encode 44 32 = m.recipient.bytes := by
    rw [encode, List.append_assoc]
    exact slice_append (by simp) (Word.length_bytes _) _
  have hbody : m.encode.drop headerLength = m.body := by
    rw [encode]
    exact List.drop_left' (by simp [headerLength])
  rw [decode, if_neg hlength, horigin, hsender, hnonce, hdestination, hrecipient, hbody]
  simp only [number32_bytes32, Word.ofBytes_bytes]

/-- Different messages are laid out differently. -/
theorem encode_injective : Function.Injective encode := by
  intro m m' h
  have hdecode := congrArg decode h
  rw [decode_encode, decode_encode] at hdecode
  exact Except.ok.inj hdecode

end Message

namespace TransferAction

/-- Reading a laid out transfer body gives the transfer. -/
theorem decode_encode (a : TransferAction) : decode a.encode = .ok a := by
  have hlength : a.encode.length = length := by simp [encode, length]
  have hdomain : slice a.encode 0 4 = bytes32 a.token.domain := by
    rw [encode]
    simp only [List.append_assoc]
    exact slice_zero_append (length_bytes32 _) _
  have hid : slice a.encode 4 32 = a.token.id.bytes := by
    rw [encode]
    simp only [List.append_assoc]
    exact slice_append (length_bytes32 _) (Word.length_bytes _) _
  have htag : a.encode.getD 36 0 = tag := by
    have hfront : (bytes32 a.token.domain ++ a.token.id.bytes).length = 36 := by simp
    rw [encode, List.append_assoc, List.append_assoc, List.getD_append_right _ _ _ _ (Nat.le_of_eq hfront),
      hfront]
    rfl
  have hbeneficiary : slice a.encode 37 32 = a.beneficiary.bytes := by
    rw [encode, List.append_assoc]
    exact slice_append (by simp) (Word.length_bytes _) _
  have hamount : slice a.encode 69 32 = a.amount.bytes := by
    have hlast : a.encode = bytes32 a.token.domain ++ a.token.id.bytes ++ [tag] ++ a.beneficiary.bytes ++
        (a.amount.bytes ++ []) := by
      rw [List.append_nil]
      rfl
    rw [hlast]
    exact slice_append (by simp) (Quantity.length_bytes _) _
  rw [decode, if_neg (not_not_intro hlength), if_neg (not_not_intro htag), hdomain, hid, hbeneficiary,
    hamount]
  simp only [number32_bytes32, Word.ofBytes_bytes, Quantity.ofBytes_bytes]

end TransferAction

end TokenBridge
