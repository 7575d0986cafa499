import TokenBridge.Proofs.Identity.Text
import TokenBridge.Proofs.Outcome

/-!
# Identities as byte strings

Which bytes stand behind an identity. The wide form of an address is its 20 bytes behind twelve zeros, and a
byte string of any length that fits is filled up in the same way, so everything here rests on one fact: a number
written with more bytes than it needs has zeros in front and nothing else changed (`encode_decode_add`). From it,
narrowing refuses exactly the words whose first twelve bytes are not all zero (`narrow_eq_ok_iff_bytes`), and two
byte strings write one number exactly if they differ by zeros in front (`decode_eq_iff`): written with the same
number of bytes they are the same string, and dropping the zeros of it drops those of each.
-/

namespace TokenBridge

namespace BigEndian

/-- A byte string without the zero bytes in front of it. -/
def stem (bytes : Bytes) : Bytes := bytes.dropWhile (· = 0)

theorem decode_zero_cons (bytes : Bytes) : decode (0 :: bytes) = decode bytes := by
  simp [decode_cons]

theorem decode_zeros_append (n : Nat) (bytes : Bytes) :
    decode (List.replicate n 0 ++ bytes) = decode bytes := by
  induction n with
  | zero => rfl
  | succ n ih => rw [List.replicate_succ, List.cons_append, decode_zero_cons, ih]

theorem decode_stem (bytes : Bytes) : decode (stem bytes) = decode bytes := by
  rw [stem]
  induction bytes with
  | nil => rfl
  | cons b rest ih =>
    by_cases hb : b = 0
    · rw [List.dropWhile_cons_of_pos (by simpa using hb), ih, hb, decode_zero_cons]
    · rw [List.dropWhile_cons_of_neg (by simpa using hb)]

theorem stem_zeros_append (n : Nat) (bytes : Bytes) : stem (List.replicate n 0 ++ bytes) = stem bytes := by
  induction n with
  | zero => rfl
  | succ n ih =>
    rw [List.replicate_succ, List.cons_append, stem, List.dropWhile_cons_of_pos (by simp)]
    exact ih

/-- A number written with more bytes than a byte string of it has zeros in front of that string. -/
theorem encode_decode_add (n : Nat) (bytes : Bytes) :
    encode (n + bytes.length) (decode bytes) = List.replicate n 0 ++ bytes := by
  have hlength : (List.replicate n 0 ++ bytes).length = n + bytes.length := by
    rw [List.length_append, List.length_replicate]
  rw [← decode_zeros_append n bytes, ← hlength, encode_decode]

/-- Byte strings write the same number exactly if they differ by zeros in front. -/
theorem decode_eq_iff {bytes others : Bytes} : decode bytes = decode others ↔ stem bytes = stem others := by
  constructor
  · intro h
    -- Both lengths are too short for neither string, so the number is written out in their sum.
    have hpadded : List.replicate others.length 0 ++ bytes = List.replicate bytes.length 0 ++ others := by
      rw [← encode_decode_add, ← encode_decode_add, h, Nat.add_comm]
    rw [← stem_zeros_append others.length bytes, hpadded, stem_zeros_append]
  · intro h
    rw [← decode_stem bytes, h, decode_stem]

end BigEndian

open BigEndian

namespace Address

/-- The 20 bytes of an address. -/
def bytes (a : Address) : Bytes := encode 20 a.toNat

@[simp] theorem length_bytes (a : Address) : a.bytes.length = 20 := length_encode 20 _

theorem decode_bytes (a : Address) : decode a.bytes = a.toNat := decode_encode a.isLt

/-- Every string of 20 bytes is that of an address. -/
theorem length_eq_iff {bs : Bytes} : bs.length = 20 ↔ ∃ a : Address, a.bytes = bs := by
  constructor
  · intro h
    have hlt : decode bs < 2 ^ 160 := by
      have := decode_lt bs
      rwa [h] at this
    exact ⟨⟨decode bs, hlt⟩, by rw [bytes, ← h, encode_decode]⟩
  · rintro ⟨a, rfl⟩
    exact a.length_bytes

/-- The wide form of an address is its bytes behind twelve zeros. -/
theorem bytes_widen (a : Address) : a.widen.bytes = List.replicate 12 0 ++ a.bytes := by
  rw [← encode_decode_add, decode_bytes, length_bytes]
  rfl

end Address

namespace Word

theorem bytes_injective {v w : Word} (h : v.bytes = w.bytes) : v = w := by
  rw [← ofBytes_bytes v, h, ofBytes_bytes]

theorem narrow_eq_ok_iff {id : Word} {a : Address} : id.narrow = .ok a ↔ a.widen = id := by
  rw [← narrow?_eq_some_iff, narrow]
  cases id.narrow? <;> simp

/-- What narrowing to an address asks of the bytes of a word, and what it leaves of them. -/
theorem narrow_eq_ok_iff_bytes {id : Word} {a : Address} :
    id.narrow = .ok a ↔ id.bytes.take 12 = List.replicate 12 0 ∧ id.bytes.drop 12 = a.bytes := by
  rw [narrow_eq_ok_iff]
  constructor
  · rintro rfl
    rw [Address.bytes_widen]
    exact ⟨List.take_left' (List.length_replicate ..), List.drop_left' (List.length_replicate ..)⟩
  · rintro ⟨hzeros, hrest⟩
    apply bytes_injective
    rw [Address.bytes_widen, ← hzeros, ← hrest, List.take_append_drop]

theorem exists_narrow_iff {id : Word} : (∃ a, id.narrow = .ok a) ↔ id.bytes.take 12 = List.replicate 12 0 := by
  constructor
  · rintro ⟨a, ha⟩
    exact (narrow_eq_ok_iff_bytes.1 ha).1
  · intro hzeros
    obtain ⟨a, ha⟩ := Address.length_eq_iff.1 (show (id.bytes.drop 12).length = 20 by simp)
    exact ⟨a, narrow_eq_ok_iff_bytes.2 ⟨hzeros, ha.symm⟩⟩

/-- What is not narrowed is refused as an address, whatever its bytes. -/
theorem narrow_eq_error_iff {id : Word} {e : BridgeError} :
    id.narrow.mapError BridgeError.invalidAddress = .error e ↔
      (¬ ∃ a, id.narrow = .ok a) ∧ e = .invalidAddress (.notNarrow id) := by
  rw [narrow]
  cases id.narrow? <;> simp [eq_comm]

/-- A byte string that fits names the word of its number, which is the string behind zeros. -/
theorem ofShortBytes_eq_ok_iff_bytes {bs : Bytes} {id : Word} :
    ofShortBytes bs = .ok id ↔ bs.length ≤ 32 ∧ id.bytes = List.replicate (32 - bs.length) 0 ++ bs := by
  rw [ofShortBytes_eq_ok_iff]
  refine and_congr_right fun hshort => ?_
  have hbytes : (ofBytes bs).bytes = List.replicate (32 - bs.length) 0 ++ bs := by
    rw [← encode_decode_add, Nat.sub_add_cancel hshort, bytes, toNat_ofBytes hshort]
  rw [← hbytes]
  exact ⟨fun h => by rw [h], fun h => bytes_injective h.symm⟩

theorem ofShortBytes_eq_error_iff {bs : Bytes} {e : BridgeError} :
    (ofShortBytes bs).mapError BridgeError.invalidAddress = .error e ↔
      32 < bs.length ∧ e = .invalidAddress (.tooLong bs.length) := by
  rw [ofShortBytes]
  by_cases hshort : bs.length ≤ 32
  · rw [if_pos hshort, Outcome.mapError_ok]
    constructor
    · intro h
      cases h
    · rintro ⟨hlong, -⟩
      exact absurd hlong (Nat.not_lt_of_le hshort)
  · rw [if_neg hshort, Outcome.mapError_error, Except.error.injEq, eq_comm, and_iff_right (Nat.lt_of_not_le hshort)]

theorem exists_ofShortBytes_iff {bs : Bytes} : (∃ id, ofShortBytes bs = .ok id) ↔ bs.length ≤ 32 := by
  constructor
  · rintro ⟨id, hid⟩
    exact (ofShortBytes_eq_ok_iff.1 hid).1
  · intro hshort
    exact ⟨ofBytes bs, ofShortBytes_eq_ok_iff.2 ⟨hshort, rfl⟩⟩

theorem ofShortBytes_eq_ok_iff_decode {bs : Bytes} {id : Word} :
    ofShortBytes bs = .ok id ↔ bs.length ≤ 32 ∧ decode id.bytes = decode bs := by
  rw [ofShortBytes_eq_ok_iff, decode_bytes]
  refine and_congr_right fun hshort => ?_
  rw [← toNat_ofBytes hshort]
  exact ⟨fun h => by rw [h], fun h => (ext h).symm⟩

/-- The bytes of an address name its wide form. -/
theorem ofShortBytes_bytes (a : Address) : ofShortBytes a.bytes = .ok a.widen := by
  rw [ofShortBytes_eq_ok_iff_bytes, Address.length_bytes]
  exact ⟨by decide, a.bytes_widen⟩

/-- Byte strings name one word exactly if they fit and differ by zeros in front. -/
theorem exists_ofShortBytes_eq_iff {bs others : Bytes} :
    (∃ id, ofShortBytes bs = .ok id ∧ ofShortBytes others = .ok id) ↔
      bs.length ≤ 32 ∧ others.length ≤ 32 ∧ stem bs = stem others := by
  rw [← decode_eq_iff]
  constructor
  · rintro ⟨id, hid, hothers⟩
    obtain ⟨hshort, hdecode⟩ := ofShortBytes_eq_ok_iff_decode.1 hid
    obtain ⟨hothersShort, hothersDecode⟩ := ofShortBytes_eq_ok_iff_decode.1 hothers
    exact ⟨hshort, hothersShort, hdecode.symm.trans hothersDecode⟩
  · rintro ⟨hshort, hothersShort, hdecode⟩
    obtain ⟨id, hid⟩ := exists_ofShortBytes_iff.2 hshort
    have hnumber := (ofShortBytes_eq_ok_iff_decode.1 hid).2
    exact ⟨id, hid, ofShortBytes_eq_ok_iff_decode.2 ⟨hothersShort, hnumber.trans hdecode⟩⟩

end Word

namespace Identity

/-- **Identities lose nothing of the bytes that they come from**: the wide form of an address is its bytes behind
twelve zeros and narrows to it again, what narrows to an address is its wide form, which is any word that begins
with twelve zeros, and any other word is refused. A byte string is taken if it has at most 32 bytes, for the word
of the same number, and the 20 bytes of an address for its wide form; two strings are taken for one word exactly
if they are the same without the zeros in front. -/
theorem canonical_lossless :
    (∀ a : Address, a.widen.bytes = List.replicate 12 0 ++ a.bytes ∧ a.widen.narrow = .ok a) ∧
    (∀ (id : Word) (a : Address), id.narrow = .ok a ↔ a.widen = id) ∧
    (∀ (id : Word) (a : Address),
      id.narrow = .ok a ↔ id.bytes.take 12 = List.replicate 12 0 ∧ id.bytes.drop 12 = a.bytes) ∧
    (∀ id : Word, (∃ a, id.narrow = .ok a) ↔ id.bytes.take 12 = List.replicate 12 0) ∧
    (∀ (id : Word) (e : BridgeError), id.narrow.mapError BridgeError.invalidAddress = .error e ↔
      ¬ id.bytes.take 12 = List.replicate 12 0 ∧ e = .invalidAddress (.notNarrow id)) ∧
    (∀ bs : Bytes, (∃ id, Word.ofShortBytes bs = .ok id) ↔ bs.length ≤ 32) ∧
    (∀ (bs : Bytes) (id : Word), Word.ofShortBytes bs = .ok id ↔
      bs.length ≤ 32 ∧ decode id.bytes = decode bs) ∧
    (∀ (bs : Bytes) (id : Word), Word.ofShortBytes bs = .ok id ↔
      bs.length ≤ 32 ∧ id.bytes = List.replicate (32 - bs.length) 0 ++ bs) ∧
    (∀ (bs : Bytes) (e : BridgeError), (Word.ofShortBytes bs).mapError BridgeError.invalidAddress = .error e ↔
      32 < bs.length ∧ e = .invalidAddress (.tooLong bs.length)) ∧
    (∀ bs : Bytes, bs.length = 20 ↔ ∃ a : Address, a.bytes = bs) ∧
    (∀ a : Address, Word.ofShortBytes a.bytes = .ok a.widen) ∧
    (∀ bs others : Bytes, (∃ id, Word.ofShortBytes bs = .ok id ∧ Word.ofShortBytes others = .ok id) ↔
      bs.length ≤ 32 ∧ others.length ≤ 32 ∧
        bs.dropWhile (· = 0) = others.dropWhile (· = 0)) := by
  refine ⟨fun a => ⟨a.bytes_widen, Word.narrow_eq_ok_iff.2 rfl⟩, fun _ _ => Word.narrow_eq_ok_iff,
    fun _ _ => Word.narrow_eq_ok_iff_bytes, fun _ => Word.exists_narrow_iff, fun id e => ?_,
    fun _ => Word.exists_ofShortBytes_iff, fun _ _ => Word.ofShortBytes_eq_ok_iff_decode,
    fun _ _ => Word.ofShortBytes_eq_ok_iff_bytes, fun _ _ => Word.ofShortBytes_eq_error_iff,
    fun _ => Address.length_eq_iff, Word.ofShortBytes_bytes, fun _ _ => Word.exists_ofShortBytes_eq_iff⟩
  rw [Word.narrow_eq_error_iff, Word.exists_narrow_iff]

end Identity

end TokenBridge
